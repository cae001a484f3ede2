import NodeClient.Client.Calls

/-! # Sessions

A client is asked for one thing after another: to run an operation, or to make one round trip for a
wire method and answer the result as it was sent. In each turn the server does with the request,
should there be one, what it likes, and the client goes on from the state that is left.
-/

namespace NodeClient

/-- What a client is asked for: an operation with named arguments, or a wire method with its
parameters. -/
inductive Inquiry where
  | call (call : Call)
  | invoke (method : String) (params : List Argument)

/-- What an inquiry is answered with: a result that does not depend on the release, or a result as
it was sent. -/
inductive Answer where
  | canonical (value : Canonical)
  | asSent (result : Json)

/-- A turn of a session: an inquiry, and what the server does with the request for it. -/
structure Turn where
  inquiry : Inquiry
  server : Server

namespace Client

def answer (client : Client) (server : Server) (state : TransportState) : Inquiry → Attempt Answer
  | .call call =>
    (client.callWith server state call.operation call.arguments).andThen fun value =>
      pure (.canonical value)
  | .invoke method params =>
    (client.invoke server state method params).andThen fun result => pure (.asSent result)

/-- The attempts that a session makes, turn by turn. -/
def run (client : Client) (state : TransportState) : List Turn → List (Attempt Answer)
  | [] => []
  | turn :: rest =>
    let attempt := client.answer turn.server state turn.inquiry
    attempt :: client.run attempt.state rest

def stateAfter (client : Client) (state : TransportState) : List Turn → TransportState
  | [] => state
  | turn :: rest => client.stateAfter (client.answer turn.server state turn.inquiry).state rest

/-- The wire method and the parameters that an inquiry leads to, unless it is refused: the names of
the arguments are taken, the release has the operation, and its signature takes the arguments. A wire
method is always requested. -/
def requested? (client : Client) : Inquiry → Option (String × List Argument)
  | .call call =>
    match Call.checkNames Call.generalName (call.arguments.map Prod.fst),
      client.profile.binding? call.operation with
    | .ok (), some binding =>
      match binding.body.signature.encode call.arguments with
      | .ok params => some (binding.body.method, params)
      | .error _ => none
    | _, _ => none
  | .invoke method params => some (method, params)

/-- Whether an inquiry leads to a request. -/
def accepts (client : Client) (inquiry : Inquiry) : Bool := (client.requested? inquiry).isSome

end Client

end NodeClient
