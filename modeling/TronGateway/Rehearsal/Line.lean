import TronGateway.Node.Service
set_option autoImplicit false

/-!
# A line with canned replies

The line reaches one host. Each request that arrives takes the next reply, and none when the replies
are used up; a request to anywhere else is lost.
-/

namespace TronGateway.Rehearsal

/-- A request that arrived, with the target that it was sent to. -/
structure Arrival where
  request : Http.Request
  target : String

def hostName : String := "node"

def targetAtHost? (request : Http.Request) : Option String :=
  match Http.Url.parse? request.url with
  | some url => if url.authority = hostName then some url.target else none
  | none => none

structure Line where
  replies : List Http.Reply
  arrivals : List Arrival

namespace Line

def exchange (request : Http.Request) : StateM Line Http.Reply := fun line =>
  match targetAtHost? request with
  | none => (.dropped, line)
  | some target =>
    let arrivals := line.arrivals ++ [⟨request, target⟩]
    match line.replies with
    | [] => (.dropped, { line with arrivals })
    | reply :: replies => (reply, ⟨replies, arrivals⟩)

end Line
end TronGateway.Rehearsal
