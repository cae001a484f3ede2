import NodeClient.Failure
import NodeClient.Frame.Request
import NodeClient.Text.Base64

/-! # The transport

A transport sends one request at a time to one address and gets one reply. Requests are numbered 1,
2, 3 and so on; a number is used up by every request that is prepared, whatever becomes of it, also
if it cannot be written. A transport that owns its connections closes them with itself, and sends
nothing afterwards.
-/

namespace NodeClient

/-- What a server does with a request. -/
inductive Reply where
  | http (status : Nat) (body : List UInt8)
  | connectionFailed (text : String)
  | timedOut (text : String)
  | failed (text : String)
  | odd (kind : OddExchange) (text : String)
  deriving Repr

/-- What is sent for one request. -/
structure Sent where
  url : String
  request : Request
  authorization? : Option String
  readTimeout : Json
  deriving Repr

def Sent.body (sent : Sent) : String := sent.request.line

/-- A server: the reply to what is sent. -/
abbrev Server := Sent → Reply

/-- The way to a server. The timeout of the connections may differ from the one that is told; any
value is taken for a timeout, and null for none. -/
structure Transport where
  address : String
  credentials? : Option Credentials
  timeout : Json
  readTimeout : Json
  owned : Bool
  deriving Repr

/-- What changes in a transport: the count of requests prepared, and whether it is closed. -/
structure TransportState where
  prepared : Nat
  closed : Bool
  deriving Repr, DecidableEq

/-- An attempt at something that may send a request: what was sent, the state after it, and the
outcome with its log records. -/
structure Attempt (α : Type) where
  sent : List Sent
  state : TransportState
  traced : Traced Failure α

namespace Attempt

variable {α β : Type}

/-- An attempt that sends nothing. -/
def silent (state : TransportState) (traced : Traced Failure α) : Attempt α := ⟨[], state, traced⟩

/-- Goes on with the outcome without sending more. -/
def andThen (attempt : Attempt α) (next : α → Traced Failure β) : Attempt β :=
  ⟨attempt.sent, attempt.state, attempt.traced.andThen next⟩

/-- Makes a log record first. -/
def after (record : LogRecord) (attempt : Attempt α) : Attempt α :=
  { attempt with traced := ⟨record :: attempt.traced.records, attempt.traced.outcome⟩ }

end Attempt

namespace Transport

/-- The version of the framing that requests state. -/
def frameVersion : String := "2.0"

def shown (transport : Transport) : String :=
  let scheme := if transport.credentials?.isSome then "basic" else "none"
  s!"HttpTransport(url={Text.quoted transport.address}, auth={scheme})"

/-- The authorization of a user with a password. -/
def basic (user password : String) : String :=
  "Basic " ++ String.ofList (Text.base64 (Text.encode (user.toList ++ ':' :: password.toList)))

/-- The authorization of a request: that of the credentials or else of the address. -/
def authorizationFor (transport : Transport) (url : Url) : Option String :=
  match transport.credentials? with
  | some credentials => some (basic credentials.user credentials.password)
  | none =>
    let (user, password) := url.credentials
    if user.isEmpty && password.isEmpty then none else some (basic user password)

def fault {α : Type} (method : String) (fault : TransportFault) : Traced Failure α :=
  Traced.fail (.client (.call ⟨method, .transport fault⟩))

def warn {α : Type} (method text : String) (cause : TransportFault) : Traced Failure α := do
  Traced.record .warning .transport text
  fault method cause

/-- The response in the body of a reply to a request with an id. -/
def accept (method : String) (id status : Nat) (body : List UInt8) : Traced Failure Response :=
  if status = 401 ∨ status = 403 then fault method (.rejected status)
  else
    match Response.parse (Text.decodeLossy body) with
    | .error (.tooLong digits) => Traced.fail (.escape (.tooLong (some digits)))
    | .error (.fault problem) => fault method (.invalidResponse status problem)
    | .ok response =>
      if !response.id.isNull && !Value.equals response.id (.int id) then
        fault method (.otherId response.id id)
      else pure response

/-- What a reply to a request with an id means. -/
def interpret (transport : Transport) (url : Url) (method : String) (id : Nat) :
    Reply → Traced Failure Response
  | .connectionFailed text =>
    warn method s!"Connection failed to {transport.address}: {text}" (.connectionFailed text)
  | .timedOut text =>
    warn method s!"Request timed out: method={method}, timeout={transport.timeout.plain}"
      (.timedOut text)
  | .failed text => fault method (.http text)
  | .odd kind text => Traced.fail (.escape (.odd kind text))
  | .http status body =>
    if !url.isAbsolute then Traced.fail (.escape (.noScheme url.text))
    else
      match url.checkBrackets with
      | .error fault => Traced.fail (.escape (.url fault))
      | .ok () => accept method id status body

def nextRequest (state : TransportState) (method : String) (params : List Argument) : Request :=
  ⟨frameVersion, method, .arr params, .int (state.prepared + 1 : Nat)⟩

def send (transport : Transport) (server : Server) (state : TransportState) (method : String)
    (params : List Argument) : Attempt Response :=
  let id := state.prepared + 1
  let after := { state with prepared := id }
  let request := nextRequest state method params
  match request.faults, (Url.parse transport.address).bind Url.target with
  | fault :: _, _ => Attempt.silent after (Traced.fail (.escape (Escape.ofWrite fault)))
  | [], .error fault => Attempt.silent after (Traced.fail (.escape (.url fault)))
  | [], .ok target =>
    if state.closed then Attempt.silent after (Traced.fail (.escape .closed))
    else
      let sent : Sent :=
        { url := target.text
          request
          authorization? := transport.authorizationFor target
          readTimeout := transport.readTimeout }
      ⟨[sent], after, transport.interpret target method id (server sent)⟩

/-- Closes the connections that a transport owns. -/
def close (transport : Transport) (state : TransportState) : TransportState :=
  { state with closed := state.closed || transport.owned }

/-- The state of a new transport. -/
def initial : TransportState := ⟨0, false⟩

end Transport

end NodeClient
