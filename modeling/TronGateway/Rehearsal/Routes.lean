import TronGateway.Rehearsal.Line
set_option autoImplicit false

/-!
# Routes with canned replies

A route answers every request with its target whose body holds a certain text. The first route that
fits answers; where none does, nothing is found.
-/

namespace TronGateway.Rehearsal

structure Route where
  target : String
  /-- A text that the compact body has to hold. -/
  part : Option String
  reply : Http.Reply

namespace Route

def occurs (part : List Char) : List Char → Bool
  | [] => part.isEmpty
  | c :: rest => part.isPrefixOf (c :: rest) || occurs part rest

def bodyText (request : Http.Request) : List Char :=
  match request.body with
  | some body => Json.render body.toJson
  | none => []

def fits (route : Route) (arrival : Arrival) : Bool :=
  route.target = arrival.target &&
    match route.part with
    | some part => occurs part.toList (bodyText arrival.request)
    | none => true

def notFound : Http.Reply := .answered 404 ""

def replyOf (routes : List Route) (arrival : Arrival) : Http.Reply :=
  match routes.find? (·.fits arrival) with
  | some route => route.reply
  | none => notFound

end Route

/-- The routes and the requests that arrived. A host out of reach gets no request. -/
structure Network where
  routes : List Route
  isReachable : Bool
  arrivals : List Arrival

namespace Network

def exchange (request : Http.Request) : StateM Network Http.Reply := fun network =>
  match targetAtHost? request with
  | none => (.dropped, network)
  | some target =>
    if network.isReachable then
      let arrival : Arrival := ⟨request, target⟩
      (Route.replyOf network.routes arrival,
        { network with arrivals := network.arrivals ++ [arrival] })
    else (.dropped, network)

end Network
end TronGateway.Rehearsal
