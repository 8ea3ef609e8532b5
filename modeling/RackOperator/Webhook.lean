import RackOperator.Admission
import RackOperator.Http.Message
import RackOperator.Json.Reader

/-!
# The admission webhook

`Webhook.answer` answers one HTTP request: a posted review is decided, a health
check is met, and anything else is not found. A review that cannot be read is a
bad request that says what is missing.
-/

namespace RackOperator.Webhook

open Json

/-- What the webhook answers. -/
inductive Answer where
  /-- A status and a text. -/
  | text (status : Nat) (words : String)
  /-- A decided review. -/
  | decided (response : AdmissionResponse)
deriving DecidableEq

namespace Answer

/-- The status code. -/
def status : Answer → Nat
  | text status _ => status
  | decided _ => 200

/-- The content type, which only a review has. -/
def contentType : Answer → Option String
  | text .. => none
  | decided _ => some "application/json"

/-- The envelope a decided review is sent in. -/
def envelope (response : AdmissionResponse) : AdmissionReview Unit := { response := some response }

/-- The body: a text, or the envelope of a review. -/
def body : Answer → Json
  | text _ words => .str words
  | decided response => (envelope response).encode fun _ => .null

end Answer

/-- A request that is no review. -/
def badRequest (words : String) : Answer := .text 400 words

/-- Decide a posted review; `none` is a body that did not arrive whole. -/
def review {α : Type} (read : Json → Option α) (decide : AdmissionRequest α → AdmissionResponse) :
    Option (List UInt8) → Answer
  | none => badRequest "Failed to read request body"
  | some body =>
    match (parse? body).bind (AdmissionReview.decode? read) with
    | none => badRequest "Invalid AdmissionReview format"
    | some envelope =>
      match envelope.request with
      | none => badRequest "Missing request in AdmissionReview"
      | some request => .decided (decide request)

/-- Answer a request of a method for a path. -/
def answer (method path : String) (body : Option (List UInt8)) : Answer :=
  if method = "POST" ∧ path = "/validate/datacenter" then
    review DataCenter.decode? AdmissionRequest.reviewDataCenter body
  else if method = "POST" ∧ path = "/validate/task" then
    review CassandraTask.decode? AdmissionRequest.reviewTask body
  else if method = "GET" ∧ path = "/healthz" then .text 200 "OK"
  else if method = "GET" ∧ path = "/readyz" then .text 200 "Ready"
  else .text 404 "Not Found"

/-- What of an answer's body is sent: nothing to a request for the head alone. -/
def sent (method : String) (a : Answer) : Json := if method = "HEAD" then .str "" else a.body

end RackOperator.Webhook
