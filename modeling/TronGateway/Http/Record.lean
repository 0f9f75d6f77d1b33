import TronGateway.Http.Exchange
set_option autoImplicit false

/-!
# Requests and replies as records

How a request is handed to somebody who can reach the network, and how the reply comes back: as JSON
on one line each.
-/

namespace TronGateway.Http

def Request.toJson (request : Request) (timeout : UInt64) : Json :=
  Json.ofMembers [("method", Json.ofText request.method.name), ("url", Json.ofText request.url),
    ("timeout", Json.ofInt timeout.toNat),
    ("body", match request.body with
      | some body => body.toJson
      | none => .null)]

/-- Reads a reply. It has a status and a body, or says that there was none. -/
def Reply.readJson : Json.Reader Reply := fun depth json => do
  let members ← Json.readMembers ["status", "body", "drop"] depth json
  let status ← members.optional "status" Json.readUInt32 200
  let body ← members.optional "body" Json.readText ""
  let dropped ← members.optional "drop" Json.readBool false
  return if dropped then .dropped else .answered status.toNat body

end TronGateway.Http
