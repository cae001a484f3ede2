import NodeClient.Client.Transport

/-! # Clients

A client is bound to one release. A call looks up the binding of the operation, encodes the
arguments, makes one round trip, reads the result by the shape of the release and projects it. A
call that the binding or the encoding refuses sends nothing.
-/

namespace NodeClient

/-- A client of servers of one release. -/
structure Client where
  profile : Profile Dialect
  transport : Transport
  ownsTransport : Bool

/-- A logical call: an operation with named arguments. -/
structure Call where
  operation : Operation
  arguments : List (String × Argument)

namespace Client

def release (client : Client) : Release := client.profile.release

def shown (client : Client) : String :=
  s!"corerpc.Client({client.release.text}, {client.transport.shown})"

def errorRecord (method : String) (error : CallError) : LogRecord :=
  ⟨.debug, .client, s!"error: {method}: {error.message}"⟩

def resultRecord (method : String) (result : Argument) : LogRecord :=
  ⟨.trace, .client, s!"response for {method}: {result.shown}"⟩

def requestRecord (method : String) (params : List Argument) : LogRecord :=
  ⟨.debug, .client, s!"request: {method} {Value.shown (.arr params)}"⟩

/-- The error that a server returned, from the members of its error object. -/
def returnedError (method : String) (members : List (String × Json)) : CallError :=
  { method
    cause :=
      .returned ((Value.member? "code" members).getD (.int (-1)))
        ((Value.member? "message" members).getD (.str "Unknown error"))
        (Value.memberOrNull "data" members) }

/-- Records the failure of a round trip. -/
def observeFailure {α : Type} (method : String) (traced : Traced Failure α) : Traced Failure α :=
  match traced.outcome with
  | .error (.client (.call error)) =>
    ⟨traced.records ++ [errorRecord method error], traced.outcome⟩
  | _ => traced

def resultOf (method : String) (response : Response) : Traced Failure Json :=
  match response.error? with
  | some members =>
    let error := returnedError method members
    ⟨[errorRecord method error], .error (.client (.call error))⟩
  | none => ⟨[resultRecord method (Value.ofJson response.result)], .ok response.result⟩

/-- Makes the record of a request first. There is none of parameters with an integer that has too many
digits, since it cannot be shown either. -/
def afterRequest {α : Type} (method : String) (params : List Argument) (attempt : Attempt α) :
    Attempt α :=
  if .tooLong ∈ Value.itemFaults params then attempt else attempt.after (requestRecord method params)

/-- Makes one round trip and answers the result as it was sent. -/
def invoke (client : Client) (server : Server) (state : TransportState) (method : String)
    (params : List Argument) : Attempt Json :=
  let attempt := client.transport.send server state method params
  let observed : Attempt Response :=
    { attempt with traced := observeFailure method attempt.traced }
  afterRequest method params (observed.andThen (resultOf method))

/-- Makes the round trip of an operation and answers the result as the release has it. -/
def raw (client : Client) (server : Server) (state : TransportState) (call : Call) : Attempt Raw :=
  match client.profile.binding call.operation with
  | .error error => Attempt.silent state (Traced.fail (.client (.unsupported error)))
  | .ok binding =>
    match binding.body.signature.encode call.arguments with
    | .error error => Attempt.silent state (Traced.fail (.client (.encode error)))
    | .ok params =>
      (client.invoke server state binding.body.method params).andThen fun result =>
        Traced.ofExcept ((binding.body.decode result).mapError fun cause =>
          .client (.call ⟨binding.body.method, .decode cause⟩))

def project (client : Client) (operation : Operation) (raw : Raw) : Traced Failure Canonical :=
  match client.profile.binding operation with
  | .error error => Traced.fail (.client (.unsupported error))
  | .ok binding =>
    Traced.ofExcept ((binding.body.projection.apply raw).mapError Failure.ofProjection)

/-- Runs an operation and answers the result that does not depend on the release. -/
def call (client : Client) (server : Server) (state : TransportState) (call : Call) :
    Attempt Canonical :=
  (client.raw server state call).andThen (client.project call.operation)

def serverVersion (client : Client) (server : Server) (state : TransportState) : Attempt Int :=
  (client.raw server state ⟨.getNetworkInfo, []⟩).andThen fun raw =>
    Traced.ofExcept ((raw.intAt "version").mapError Failure.ofProjection)

def checkServerVersion (client : Client) (server : Server) (state : TransportState) :
    Attempt Unit :=
  (client.serverVersion server state).andThen fun actual =>
    if client.release.matchesServerVersion actual then pure ()
    else Traced.fail (.client (.unexpectedVersion client.release.serverVersion actual))

def close (client : Client) (state : TransportState) : TransportState :=
  if client.ownsTransport then client.transport.close state else state

def announcement (client : Client) : LogRecord :=
  { level := .debug
    source := .client
    text :=
      s!"Client initialized: version={client.release.text}, transport={client.transport.shown}" }

/-- A client with a transport that its caller made. -/
def withTransport (release : Release) (transport : Transport) : Traced Failure Client := do
  let client : Client := ⟨release.profile, transport, false⟩
  Traced.note release.profile.announcement
  Traced.note client.announcement
  return client

def connect (host : Host) (address : String) (release : Release) (option : CredentialOption)
    (timeout : Json) : Traced Failure Client := do
  Traced.note release.profile.announcement
  let credentials? ← (option.resolve host).mapError Failure.ofCredential
  let client : Client :=
    ⟨release.profile, ⟨address, credentials?, timeout, timeout, true⟩, true⟩
  Traced.note client.announcement
  return client

def connectAuthenticated (host : Host) (address : String) (release : Release)
    (option : CredentialOption) (timeout : Json) : Traced Failure Client :=
  match option with
  | .noAuth => Traced.fail (.client .missingCredentials)
  | option => connect host address release option timeout

def ofSettings (host : Host) (settings : Settings) : Traced Failure Client :=
  connect host settings.url settings.release settings.credentialOption (.float settings.timeout)

def ofHost (host : Host) : Traced Failure Client := do
  let settings ← (Settings.load host none none).mapError Failure.ofLoad
  ofSettings host settings

end Client

end NodeClient
