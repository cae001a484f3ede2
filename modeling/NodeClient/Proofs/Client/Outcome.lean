import NodeClient.Proofs.Client.Exchange
import NodeClient.Log

/-! # From the reply to the outcome

A call that is not refused sends one request, and its outcome is that of the stages the reply goes
through: the transport accepts it as a response, the response is a result or an error of the server,
the result is read by the shape of the release, and what was read is projected. Log records have no
part in it. A transport that reaches a server puts a reply into the first stage as it came.
-/

namespace NodeClient

/-- The address of a transport leads to a server, to which replies come back. -/
structure Transport.Reaches (transport : Transport) (url : Url) : Prop where
  target : (Url.parse transport.address).bind Url.target = .ok url
  absolute : url.isAbsolute = true
  brackets : url.checkBrackets = .ok ()

namespace Transport

variable (transport : Transport) (server : Server) (state : TransportState) (method : String)
  (params : List Argument)

/-- What is sent to an address for the next request. -/
def posted (url : Url) : Sent :=
  { url := url.text
    request := nextRequest state method params
    authorization? := transport.authorizationFor url
    readTimeout := transport.readTimeout }

variable {transport state params}

/-- An open transport with an address to send to exchanges the next request, if it can be written, for
its reply. -/
theorem send_of_target {url : Url} (writable : Argument.Writable params)
    (isOpen : state.closed = false)
    (target : (Url.parse transport.address).bind Url.target = .ok url) :
    transport.send server state method params =
      ⟨[transport.posted state method params url], { state with prepared := state.prepared + 1 },
        transport.interpret url method (state.prepared + 1)
          (server (transport.posted state method params url))⟩ := by
  have faults : (nextRequest state method params).faults = [] := writable
  simp only [send, faults, target, isOpen, Bool.false_eq_true, ↓reduceIte]
  rfl

/-- A transport fails before it sends anything, or exchanges the next request for its reply. -/
theorem send_cases (transport : Transport) (state : TransportState) (params : List Argument) :
    (∃ escape, transport.send server state method params =
      Attempt.silent { state with prepared := state.prepared + 1 } (Traced.fail (.escape escape))) ∨
    ∃ url, transport.send server state method params =
      ⟨[transport.posted state method params url], { state with prepared := state.prepared + 1 },
        transport.interpret url method (state.prepared + 1)
          (server (transport.posted state method params url))⟩ := by
  by_cases writable : Argument.Writable params
  swap
  · obtain ⟨fault, rest, first⟩ := Argument.exists_fault_of_not_writable writable
    exact .inl ⟨_, send_of_fault transport server state method params first⟩
  cases target : (Url.parse transport.address).bind Url.target with
  | error fault => exact .inl ⟨_, send_of_no_target transport server state method params writable target⟩
  | ok url =>
    cases isOpen : state.closed with
    | true =>
      have faults : (nextRequest state method params).faults = [] := writable
      exact .inl ⟨.closed, by simp only [send, faults, target, isOpen, ↓reduceIte]⟩
    | false =>
      rw [send_of_target server method writable isOpen target, isOpen]
      exact .inr ⟨url, rfl⟩

/-- A reply from a server that is reached is accepted or refused by its status and its body. -/
theorem interpret_http {url : Url} (reaches : transport.Reaches url) (id status : Nat)
    (body : List UInt8) :
    transport.interpret url method id (.http status body) = accept method id status body := by
  rw [interpret]
  simp only [reaches.absolute, reaches.brackets, Bool.not_true, Bool.false_eq_true, ↓reduceIte]

/-- A server on the local host is reached at its port. -/
theorem reaches_local (credentials? : Option Credentials) (timeout readTimeout : Json)
    (owned : Bool) :
    Reaches ⟨"http://127.0.0.1:8332", credentials?, timeout, readTimeout, owned⟩
      ⟨"http", "", "127.0.0.1", some 8332, "", none, none⟩ := by
  have target : (Url.parse "http://127.0.0.1:8332").bind Url.target =
      .ok ⟨"http", "", "127.0.0.1", some 8332, "", none, none⟩ := by rfl
  exact ⟨target, by decide, by rfl⟩

end Transport

namespace Client

@[simp] theorem observeFailure_outcome {α : Type} (method : String) (traced : Traced Failure α) :
    (observeFailure method traced).outcome = traced.outcome := by
  rw [observeFailure]
  split <;> rfl

/-- What a call makes of the outcome of its exchange. -/
def conclude (dialect : Dialect) (exchanged : Except Failure Response) :
    Except Failure Canonical :=
  exchanged.bind fun response =>
    (resultOf dialect.method response).outcome.bind fun result =>
      ((dialect.decode result).mapError fun cause =>
          .client (.call ⟨dialect.method, .decode cause⟩)).bind fun raw =>
        (dialect.projection.apply raw).mapError Failure.ofProjection

variable {client : Client} (server : Server) {state : TransportState} {call : Call}
  {binding : Binding Dialect} {params : List Argument}

theorem call_outcome_of_encoded (bound : client.profile.binding? call.operation = some binding)
    (encoded : binding.body.signature.encode call.arguments = .ok params) :
    (client.call server state call).traced.outcome =
      conclude binding.body
        (client.transport.send server state binding.body.method params).traced.outcome := by
  simp only [Client.call, raw, project, Profile.binding, bound, encoded, invoke, Attempt.andThen,
    afterRequest_outcome, Traced.andThen_outcome, Traced.ofExcept_outcome, observeFailure_outcome,
    conclude]
  cases (client.transport.send server state binding.body.method params).traced.outcome with
  | error failure => rfl
  | ok response =>
    cases ended : (resultOf binding.body.method response).outcome <;>
      simp only [Except.bind, ended]

/-- The outcome of a call whose request gets a reply with some status and body. -/
theorem call_outcome_of_reply {url : Url} (reaches : client.transport.Reaches url)
    (isOpen : state.closed = false)
    (bound : client.profile.binding? call.operation = some binding)
    (encoded : binding.body.signature.encode call.arguments = .ok params)
    (writable : Argument.Writable params) (status : Nat) (body : List UInt8) :
    (client.call (fun _ => .http status body) state call).traced.outcome =
      conclude binding.body
        (Transport.accept binding.body.method (state.prepared + 1) status body).outcome := by
  rw [call_outcome_of_encoded _ bound encoded,
    Transport.send_of_target _ _ writable isOpen reaches.target]
  dsimp only
  rw [Transport.interpret_http _ reaches]

end Client

end NodeClient
