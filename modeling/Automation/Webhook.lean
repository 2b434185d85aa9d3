import Automation.Json.Reader
import Automation.Tree.Decode
/-!
# Webhooks

A webhook is a request over HTTP. The answers are not computed: a `WebhookClient` holds those that
the next requests will get, and keeps the requests that have been sent.
-/

namespace Automation

/-- The method of a request. -/
inductive HttpMethod where
  | get
  | post
  | put
  | patch
  | delete
  deriving DecidableEq, Repr, Inhabited

namespace HttpMethod

/-- The methods in the order in which messages list them. -/
def all : List HttpMethod :=
  [.get, .post, .put, .patch, .delete]

/-- The name of a method. -/
def wireName : HttpMethod → String
  | .get => "GET"
  | .post => "POST"
  | .put => "PUT"
  | .patch => "PATCH"
  | .delete => "DELETE"

/-- The method that a tree names. -/
def ofTree (t : Tree) : Except DecodeFault HttpMethod :=
  t.asVariant (all.map fun m => (m.wireName, m))

end HttpMethod

/-- A request. -/
structure WebhookRequest where
  method : HttpMethod
  url : String
  headers : Entries String
  body : Option Json
  deriving Repr, Inhabited

/-- The body to send for an input: texts that are JSON are sent as JSON, and null is no body. -/
def WebhookRequest.bodyOf? : Option Json → Option Json
  | some (.string s) => some ((Json.ofText? s).getD (.string s))
  | some .null => none
  | body => body

/-- A response. -/
structure WebhookResponse where
  status : Nat
  body : Json
  deriving Repr, Inhabited

/-- The response reports success. -/
def WebhookResponse.isSuccess (r : WebhookResponse) : Bool :=
  200 ≤ r.status && r.status < 300

/-- What a request comes to: a response, or why there is none. -/
abbrev WebhookAnswer := Except String WebhookResponse

/-- The answers to come, the answer to requests beyond these, and the requests sent. -/
structure WebhookClient where
  answers : List WebhookAnswer := []
  beyond : WebhookAnswer := .ok ⟨200, .null⟩
  sent : List WebhookRequest := []

instance : Inhabited WebhookClient := ⟨{}⟩

/-- Sends a request. -/
def WebhookClient.send (c : WebhookClient) (request : WebhookRequest) :
    WebhookAnswer × WebhookClient :=
  (c.answers.headD c.beyond,
    { c with answers := c.answers.tail, sent := c.sent ++ [request] })

end Automation
