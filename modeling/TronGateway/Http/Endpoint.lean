import TronGateway.Http.Exchange
set_option autoImplicit false

/-!
# JSON endpoints

Requests below a base address, and what their replies mean: no reply and a status other than success
are failures of the transport, a body that is not of the wanted form is one of decoding.
-/

namespace TronGateway

/-- An object of members in any order. -/
def Value.ofMembers (members : List (String × Value)) : Value :=
  .object (members.foldl (fun found member => Value.insertMember member.1 member.2 found) [])

namespace Http

def withoutSlashes (base : String) : String :=
  String.ofList (base.toList.reverse.dropWhile (· = '/')).reverse

def post (base path : String) (body : Value) : Request :=
  ⟨.post, withoutSlashes base ++ path, some body⟩

def get (base path : String) : Request :=
  ⟨.get, withoutSlashes base ++ path, none⟩

def receive {α : Type} (request : Request) (reader : Json.Reader α) (reply : Reply) :
    Except Error α :=
  match reply.settled with
  | .dropped => .error (.transport (request.method.name ++ " " ++ request.url ++ " failed"))
  | .answered status body =>
    if isSuccess status then
      match Json.decode reader (bodyText status body) with
      | some value => .ok value
      | none => .error (.decode ("invalid JSON from " ++ request.url))
    else .error (.transport (request.url ++ " returned status " ++ statusText status))

def remoteCall (address method : String) (arguments : List Value) : Request :=
  ⟨.post, address, some (Value.ofMembers [("jsonrpc", .text "2.0"), ("method", .text method),
    ("params", .array arguments), ("id", .integer 1)])⟩

def receiveRemote {α : Type} (address method : String) (reader : Json.Reader α) (reply : Reply) :
    Except Error α :=
  match reply.settled with
  | .dropped => .error (.transport (method ++ " " ++ address ++ " failed"))
  | .answered status body =>
    if isSuccess status then
      match Json.decode reader (bodyText status body) with
      | some value => .ok value
      | none => .error (.decode ("invalid JSON-RPC answer to " ++ method))
    else
      .error (.transport (method ++ " " ++ address ++ " returned status " ++ statusText status))

end Http
end TronGateway
