import RackOperator.Json.Basic
import RackOperator.Text.Utf8

/-!
# Requests and responses

A request names what it is about by a path and a query; its body, if it has one,
is JSON. A response is a status code and a body of bytes.
-/

namespace RackOperator.Http

/-- What a request is about. -/
structure Target where
  path : String
  /-- What stands behind the question mark, empty if there is none. -/
  query : String := ""
deriving DecidableEq, Repr

/-- A request as it is sent. -/
structure Request where
  method : String
  target : Target
  /-- The host it is sent to, with the port if that is not the usual one. -/
  host : String := ""
  contentType : Option String := none
  body : Option Json := none

/-- A response as it comes back. -/
structure Response where
  status : Nat := 200
  body : List UInt8 := []
deriving DecidableEq, Repr

namespace Response

/-- Whether the status says that the request was met. -/
def isSuccess (r : Response) : Bool := 200 ≤ r.status && r.status < 300

/-- Whether the status says that the request or the server failed. -/
def isFailure (r : Response) : Bool := 400 ≤ r.status && r.status < 600

/-- The body, if a response of this status carries one. -/
def content (r : Response) : List UInt8 :=
  if r.status = 204 || r.status = 304 then [] else r.body

end Response

end RackOperator.Http
