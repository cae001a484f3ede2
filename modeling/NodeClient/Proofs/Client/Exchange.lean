import NodeClient.Client.Calls
import NodeClient.Proofs.Json.Integers

/-! # One call, at most one exchange

A call is refused before anything is sent when an argument has a name that the call has a value for,
when the release lacks the operation, or when the signature rejects the arguments; the error is then
that of the call, of the table or of the encoder itself. Encoded arguments that cannot be written,
such as an integer with too many digits, use up a number and fail without an error of the client. In
every other case a transport that can send makes one exchange, whatever the server does with it. A
transport cannot send when it is closed or when its address leads nowhere.
-/

namespace NodeClient

namespace Attempt

variable {α β : Type}

@[simp] theorem silent_sent (state : TransportState) (traced : Traced Failure α) :
    (silent state traced).sent = [] := rfl

@[simp] theorem andThen_sent (attempt : Attempt α) (next : α → Traced Failure β) :
    (attempt.andThen next).sent = attempt.sent := rfl

/-- A failure without records passes through whatever would follow it. -/
theorem silent_fail_andThen (state : TransportState) (failure : Failure)
    (next : α → Traced Failure β) :
    (silent state (Traced.fail failure)).andThen next = silent state (Traced.fail failure) := rfl

end Attempt

/-- Parameters of which nothing is a fault of writing. -/
def Argument.Writable (params : List Argument) : Prop := Value.itemFaults params = []

instance (params : List Argument) : Decidable (Argument.Writable params) :=
  inferInstanceAs (Decidable (_ = []))

theorem Argument.exists_fault_of_not_writable {params : List Argument}
    (unwritable : ¬ Writable params) : ∃ fault rest, Value.itemFaults params = fault :: rest :=
  List.exists_cons_of_ne_nil unwritable

/-- A transport that can send: its address leads to a server, and it is open. -/
structure Transport.Ready (transport : Transport) (state : TransportState) : Prop where
  target : ∃ url, (Url.parse transport.address).bind Url.target = .ok url
  isOpen : state.closed = false

namespace Transport

variable (transport : Transport) (server : Server) (state : TransportState) (method : String)
  (params : List Argument)

/-- A transport that can send makes one exchange with the next request, whatever the reply. -/
theorem send_sent_of_ready (ready : transport.Ready state) (writable : Argument.Writable params) :
    ∃ sent, (transport.send server state method params).sent = [sent] ∧
      sent.request = nextRequest state method params := by
  obtain ⟨⟨url, target⟩, isOpen⟩ := ready
  have faults : (nextRequest state method params).faults = [] := writable
  refine ⟨⟨url.text, nextRequest state method params, transport.authorizationFor url,
    transport.readTimeout⟩, ?_, rfl⟩
  simp only [send, faults, target, isOpen, Bool.false_eq_true, ↓reduceIte]

/-- Parameters that cannot be written fail with their first fault; the number is used up. -/
theorem send_of_fault {fault : Value.WriteFault} {rest : List Value.WriteFault}
    (first : Value.itemFaults params = fault :: rest) :
    transport.send server state method params =
      Attempt.silent { state with prepared := state.prepared + 1 }
        (Traced.fail (.escape (Escape.ofWrite fault))) := by
  have faults : (nextRequest state method params).faults = fault :: rest := first
  simp only [send, faults]

/-- An address that leads nowhere fails what can be written; the number is used up. -/
theorem send_of_no_target {fault : UrlFault} (writable : Argument.Writable params)
    (target : (Url.parse transport.address).bind Url.target = .error fault) :
    transport.send server state method params =
      Attempt.silent { state with prepared := state.prepared + 1 }
        (Traced.fail (.escape (.url fault))) := by
  have faults : (nextRequest state method params).faults = [] := writable
  simp only [send, faults, target]

/-- A transport that cannot send exchanges nothing. -/
theorem send_sent_of_not_ready (blocked : ¬ transport.Ready state) :
    (transport.send server state method params).sent = [] := by
  by_cases writable : Argument.Writable params
  swap
  · obtain ⟨fault, rest, first⟩ := Argument.exists_fault_of_not_writable writable
    rw [send_of_fault transport server state method params first, Attempt.silent_sent]
  cases target : (Url.parse transport.address).bind Url.target with
  | error fault =>
    rw [send_of_no_target transport server state method params writable target, Attempt.silent_sent]
  | ok url =>
    have faults : (nextRequest state method params).faults = [] := writable
    have closed : state.closed = true := by
      cases status : state.closed with
      | true => rfl
      | false => exact (blocked ⟨⟨url, target⟩, status⟩).elim
    simp only [send, faults, target, closed, ↓reduceIte, Attempt.silent_sent]

end Transport

namespace Client

variable (client : Client) (server : Server) (state : TransportState) (call : Call)

/-- An operation that the release lacks fails before its arguments are looked at. -/
theorem call_of_unbound (unbound : client.profile.binding? call.operation = none) :
    client.call server state call = Attempt.silent state
      (Traced.fail (.client (.unsupported ⟨call.operation.name, client.release.text⟩))) := by
  simp only [Client.call, raw, Profile.binding, unbound, Attempt.silent_fail_andThen]
  rfl

variable {client call}
variable {binding : Binding Dialect}

/-- Arguments that the signature rejects fail with the very error of the encoder. -/
theorem call_of_rejected {error : EncodeError}
    (bound : client.profile.binding? call.operation = some binding)
    (rejected : binding.body.signature.encode call.arguments = .error error) :
    client.call server state call =
      Attempt.silent state (Traced.fail (.client (.encode error))) := by
  simp only [Client.call, raw, Profile.binding, bound, rejected, Attempt.silent_fail_andThen]

section

variable {α : Type} (method : String) (params : List Argument) (attempt : Attempt α)

@[simp] theorem afterRequest_sent : (afterRequest method params attempt).sent = attempt.sent := by
  rw [afterRequest]
  split <;> rfl

@[simp] theorem afterRequest_state : (afterRequest method params attempt).state = attempt.state := by
  rw [afterRequest]
  split <;> rfl

@[simp] theorem afterRequest_outcome :
    (afterRequest method params attempt).traced.outcome = attempt.traced.outcome := by
  rw [afterRequest]
  split <;> rfl

end

/-- A call with arguments that the signature takes sends what its transport sends for the wire
method: reading and projecting the reply add nothing to it. -/
theorem call_sent_of_encoded {params : List Argument}
    (bound : client.profile.binding? call.operation = some binding)
    (encoded : binding.body.signature.encode call.arguments = .ok params) :
    (client.call server state call).sent =
      (client.transport.send server state binding.body.method params).sent := by
  simp only [Client.call, raw, Profile.binding, bound, encoded, invoke, Attempt.andThen_sent,
    afterRequest_sent]

/-- It leaves the state that its transport leaves. -/
theorem call_state_of_encoded {params : List Argument}
    (bound : client.profile.binding? call.operation = some binding)
    (encoded : binding.body.signature.encode call.arguments = .ok params) :
    (client.call server state call).state =
      (client.transport.send server state binding.body.method params).state := by
  simp only [Client.call, raw, Profile.binding, bound, encoded, invoke, Attempt.andThen,
    afterRequest_state]

/-- Arguments that are encoded but cannot be written fail with the first fault of writing. -/
theorem call_outcome_of_fault {params : List Argument} {fault : Value.WriteFault}
    {rest : List Value.WriteFault} (bound : client.profile.binding? call.operation = some binding)
    (encoded : binding.body.signature.encode call.arguments = .ok params)
    (first : Value.itemFaults params = fault :: rest) :
    (client.call server state call).traced.outcome = .error (.escape (Escape.ofWrite fault)) := by
  have silent := client.transport.send_of_fault server state binding.body.method params first
  have failed : (client.invoke server state binding.body.method params).traced.outcome =
      .error (.escape (Escape.ofWrite fault)) := by
    rw [invoke, afterRequest_outcome, silent]
    rfl
  simp only [Client.call, raw, Profile.binding, bound, encoded, Attempt.andThen, Traced.andThen,
    failed]

/-- Over a transport that cannot send, no call sends anything. -/
theorem call_sent_of_not_ready (blocked : ¬ client.transport.Ready state) :
    (client.call server state call).sent = [] := by
  cases bound : client.profile.binding? call.operation with
  | none => rw [call_of_unbound client server state call bound, Attempt.silent_sent]
  | some binding =>
    cases encoded : binding.body.signature.encode call.arguments with
    | error error => rw [call_of_rejected server state bound encoded, Attempt.silent_sent]
    | ok params =>
      rw [call_sent_of_encoded server state bound encoded]
      exact client.transport.send_sent_of_not_ready server state _ params blocked

/-- Whether an argument has a name that the call has a value for. -/
def Reserved (arguments : List (String × Argument)) : Prop :=
  ∃ name ∈ arguments.map Prod.fst, name = "self" ∨ name = "operation"

instance (arguments : List (String × Argument)) : Decidable (Reserved arguments) :=
  inferInstanceAs (Decidable (∃ name ∈ _, _))

theorem checkNames_general (names : List String) :
    Call.checkNames Call.generalName names =
      match names.find? fun name => name = "self" || name = "operation" with
      | some name => .error (.repeated "call" name)
      | none => .ok () := rfl

section

variable {arguments : List (String × Argument)}

/-- The names of arguments are taken if the call has a value for none of them, and otherwise one for
which it has is refused. -/
theorem checkNames_cases (arguments : List (String × Argument)) :
    (¬ Reserved arguments ∧
        Call.checkNames Call.generalName (arguments.map Prod.fst) = .ok ()) ∨
      ∃ name ∈ arguments.map Prod.fst, (name = "self" ∨ name = "operation") ∧
        Call.checkNames Call.generalName (arguments.map Prod.fst) =
          .error (.repeated "call" name) := by
  rw [checkNames_general]
  cases found : (arguments.map Prod.fst).find? fun name => name = "self" || name = "operation" with
  | none =>
    refine .inl ⟨?_, rfl⟩
    rintro ⟨name, given, taken⟩
    have other := List.find?_eq_none.mp found name given
    simp [taken] at other
  | some name =>
    have taken := List.find?_some
      (p := fun name : String => decide (name = "self") || decide (name = "operation")) found
    simp only [Bool.or_eq_true, decide_eq_true_eq] at taken
    exact .inr ⟨name, List.mem_of_find?_eq_some found, taken, rfl⟩

variable (client : Client) (server : Server) (state : TransportState) (operation : Operation)

/-- An argument with the name of the client or of the operation is refused, before anything else is
looked at. -/
theorem callWith_of_reserved (reserved : Reserved arguments) :
    ∃ name, name ∈ arguments.map Prod.fst ∧ (name = "self" ∨ name = "operation") ∧
      client.callWith server state operation arguments =
        Attempt.silent state (Traced.fail (.escape (.arguments (.repeated "call" name)))) := by
  obtain ⟨free, -⟩ | ⟨name, given, taken, refused⟩ := checkNames_cases arguments
  · exact absurd reserved free
  · rw [callWith, refused]
    exact ⟨name, given, taken, rfl⟩

theorem callWith_of_free (free : ¬ Reserved arguments) :
    client.callWith server state operation arguments =
      client.call server state ⟨operation, arguments⟩ := by
  obtain ⟨-, passed⟩ | ⟨name, given, taken, -⟩ := checkNames_cases arguments
  · rw [callWith, passed]
  · exact absurd ⟨name, given, taken⟩ free

end

/-- The line of the request with a number. -/
def lineOf (method : String) (params : List Argument) (number : Nat) : String :=
  Value.write (.obj [("jsonrpc", .str "2.0"), ("method", .str method), ("params", .arr params),
    ("id", .int number)] : Argument)

theorem id_of_nextRequest {sent : Sent} {method : String} {params : List Argument}
    (request : sent.request = Transport.nextRequest state method params) :
    sent.request.id = .int (state.prepared + 1 : Nat) := by
  rw [request]
  rfl

/-- The body of what is sent for the next request is its line. -/
theorem body_of_nextRequest {sent : Sent} {method : String} {params : List Argument}
    (request : sent.request = Transport.nextRequest state method params) :
    sent.body = lineOf method params (state.prepared + 1) := by
  rw [Sent.body, request]
  rfl

/-- A call with writable parameters over a transport that can send makes one exchange. -/
theorem call_exchanges {params : List Argument}
    (bound : client.profile.binding? call.operation = some binding)
    (encoded : binding.body.signature.encode call.arguments = .ok params)
    (writable : Argument.Writable params) (ready : client.transport.Ready state) :
    ∃ sent, (client.call server state call).sent = [sent] ∧
      sent.request = Transport.nextRequest state binding.body.method params := by
  rw [call_sent_of_encoded server state bound encoded]
  exact client.transport.send_sent_of_ready server state _ params ready writable

/-- What keeps a call from sending anything. -/
theorem call_sent_eq_nil_iff (client : Client) (server : Server) (state : TransportState)
    (call : Call) :
    (client.call server state call).sent = [] ↔
      client.profile.binding? call.operation = none ∨
        (∃ binding error, client.profile.binding? call.operation = some binding ∧
          binding.body.signature.encode call.arguments = .error error) ∨
        (∃ binding params, client.profile.binding? call.operation = some binding ∧
          binding.body.signature.encode call.arguments = .ok params ∧
          ¬ Argument.Writable params) ∨
        ¬ client.transport.Ready state := by
  constructor
  · intro silent
    cases bound : client.profile.binding? call.operation with
    | none => exact .inl rfl
    | some binding =>
      cases encoded : binding.body.signature.encode call.arguments with
      | error error => exact .inr (.inl ⟨binding, error, rfl, encoded⟩)
      | ok params =>
        by_cases writable : Argument.Writable params
        · refine .inr (.inr (.inr fun ready => ?_))
          obtain ⟨sent, alone, _⟩ := call_exchanges server state bound encoded writable ready
          exact absurd (alone.symm.trans silent) (List.cons_ne_nil _ _)
        · exact .inr (.inr (.inl ⟨binding, params, rfl, encoded, writable⟩))
  · rintro (unbound | ⟨binding, error, bound, rejected⟩ |
      ⟨binding, params, bound, encoded, unwritable⟩ | blocked)
    · rw [call_of_unbound client server state call unbound, Attempt.silent_sent]
    · rw [call_of_rejected server state bound rejected, Attempt.silent_sent]
    · obtain ⟨fault, rest, first⟩ := Argument.exists_fault_of_not_writable unwritable
      rw [call_sent_of_encoded server state bound encoded,
        client.transport.send_of_fault server state _ params first, Attempt.silent_sent]
    · exact call_sent_of_not_ready server state blocked

/-- Nothing is sent exactly when an argument has a name that is taken, the release lacks the operation,
the signature rejects the arguments, what it encodes them to cannot be written, or the transport
cannot send. The first four fail, in that order, with the error of the call, of the table, of the
encoder or of the writer. Every other call makes one exchange, with the line of the wire method, the
encoded arguments and the next number for its body. -/
theorem call_sends_once (client : Client) (server : Server) (state : TransportState)
    (operation : Operation) (arguments : List (String × Argument)) :
    let attempt := client.callWith server state operation arguments
    (attempt.sent = [] ↔
      Reserved arguments ∨ client.profile.binding? operation = none ∨
        (∃ binding error, client.profile.binding? operation = some binding ∧
          binding.body.signature.encode arguments = .error error) ∨
        (∃ binding params, client.profile.binding? operation = some binding ∧
          binding.body.signature.encode arguments = .ok params ∧ ¬ Argument.Writable params) ∨
        ¬ client.transport.Ready state) ∧
    (Reserved arguments → ∃ name, (name = "self" ∨ name = "operation") ∧
      attempt.traced.outcome = .error (.escape (.arguments (.repeated "call" name)))) ∧
    (¬ Reserved arguments →
      (client.profile.binding? operation = none →
        attempt.traced.outcome =
          .error (.client (.unsupported ⟨operation.name, client.release.text⟩))) ∧
      (∀ binding error, client.profile.binding? operation = some binding →
        binding.body.signature.encode arguments = .error error →
          attempt.traced.outcome = .error (.client (.encode error))) ∧
      ∀ binding params, client.profile.binding? operation = some binding →
        binding.body.signature.encode arguments = .ok params →
          (∀ fault rest, Value.itemFaults params = fault :: rest →
            attempt.traced.outcome = .error (.escape (Escape.ofWrite fault))) ∧
          (Argument.Writable params → client.transport.Ready state →
            ∃ sent, attempt.sent = [sent] ∧
              sent.request = ⟨"2.0", binding.body.method, .arr params,
                .int (state.prepared + 1 : Nat)⟩ ∧
              sent.body = lineOf binding.body.method params (state.prepared + 1))) := by
  intro attempt
  obtain ⟨call, rfl, rfl⟩ : ∃ call : Call, call.operation = operation ∧ call.arguments = arguments :=
    ⟨⟨operation, arguments⟩, rfl, rfl⟩
  by_cases reserved : Reserved call.arguments
  · obtain ⟨name, _, taken, refused⟩ := client.callWith_of_reserved server state call.operation reserved
    rw [show attempt = _ from refused]
    exact ⟨iff_of_true rfl (.inl reserved), fun _ => ⟨name, taken, rfl⟩,
      fun free => absurd reserved free⟩
  have called : attempt = client.call server state call :=
    client.callWith_of_free server state call.operation reserved
  rw [called]
  refine ⟨?_, fun taken => absurd taken reserved, fun _ => ⟨?_, ?_, ?_⟩⟩
  · rw [or_iff_right reserved]
    exact client.call_sent_eq_nil_iff server state call
  · intro unbound
    rw [call_of_unbound client server state call unbound]
    rfl
  · intro binding error bound rejected
    rw [call_of_rejected server state bound rejected]
    rfl
  · intro binding params bound encoded
    constructor
    · exact fun fault rest first => call_outcome_of_fault server state bound encoded first
    · intro writable ready
      obtain ⟨sent, alone, request⟩ := call_exchanges server state bound encoded writable ready
      exact ⟨sent, alone, request, body_of_nextRequest state request⟩

private theorem local_target : (Url.parse "http://127.0.0.1:8332").bind Url.target =
    .ok ⟨"http", "", "127.0.0.1", some 8332, "", none, none⟩ := by
  rfl

/-- A client of release 26 adds a node over a connection that fails: one request was sent, with the
flag for the transport behind the two required arguments. -/
theorem call_sends_once_addNode :
    let transport : Transport := ⟨"http://127.0.0.1:8332", none, .null, .null, true⟩
    let client : Client := ⟨Release.profile .v26, transport, true⟩
    let arguments : List (String × Argument) :=
      [("v2transport", .bool true), ("command", .const (.addNode .onetry)), ("node", .str "n:8333")]
    ¬ Reserved arguments ∧ transport.Ready Transport.initial ∧
      ∃ sent, (client.callWith (fun _ => .connectionFailed "refused") Transport.initial .addNode
          arguments).sent = [sent] ∧
        sent.request.id = .int 1 ∧
        sent.body = lineOf "addnode" [.str "n:8333", .str "onetry", .bool true] 1 := by
  intro transport client arguments
  have free : ¬ Reserved arguments := by decide
  have ready : transport.Ready Transport.initial := ⟨⟨_, local_target⟩, rfl⟩
  have settled := (call_sends_once client (fun _ => .connectionFailed "refused") Transport.initial
    .addNode arguments).2.2 free
  obtain ⟨sent, alone, request, body⟩ :=
    (settled.2.2 ⟨.addNode, .v26, none, Binding.addNodeTransportSignature, .null, .asSent⟩
      [.str "n:8333", .str "onetry", .bool true] rfl rfl).2 (by decide) ready
  exact ⟨free, ready, sent, alone, by rw [request]; rfl, body⟩

/-- The names and values of a ban with a time of 4301 digits. -/
def longBan : List (String × Argument) :=
  [("subnet", .str "10.0.0.1"), ("command", .const (.setBan .add)),
    ("bantime", .int (10 ^ Number.digitLimit))]

/-- What such a ban is encoded to. -/
def longBanParams : List Argument :=
  [.str "10.0.0.1", .str "add", .int (10 ^ Number.digitLimit)]

theorem itemFaults_longBanParams : Value.itemFaults longBanParams = [.tooLong] := by
  have magnitude (count : Nat) : (10 ^ count : Int).natAbs = 10 ^ count := Int.natAbs_pow 10 count
  have long : Quantity.isTooLong (.int (10 ^ Number.digitLimit)) = true := by
    rw [Quantity.isTooLong_int, magnitude]
    exact decide_eq_true (Nat.le_refl _)
  simp only [longBanParams, Value.itemFaults, Value.writeFaults, Value.integerFaults, long, ↓reduceIte,
    List.nil_append, List.append_nil]

/-- A ping takes no argument named `operation`, and its signature says so, but the call refuses that name
before the signature is asked. A ban with a time of 4301 digits is bound and encoded, and the transport
can send; it uses up the first number, and nothing is sent. Both fail with an error that is none of the
client. -/
theorem call_escapes_arguments :
    let transport : Transport := ⟨"http://127.0.0.1:8332", none, .null, .null, true⟩
    let client : Client := ⟨Release.profile .v26, transport, true⟩
    let run (operation : Operation) (arguments : List (String × Argument)) : Attempt Canonical :=
      client.callWith (fun _ => .http 200 []) Transport.initial operation arguments
    ((∃ binding, client.profile.binding? .ping = some binding ∧
        binding.body.signature.encode [("operation", .int 1)] =
          .error ⟨"ping", .unsupportedArgument "operation"⟩) ∧
      (run .ping [("operation", .int 1)]).traced.outcome =
        .error (.escape (.arguments (.repeated "call" "operation")))) ∧
    transport.Ready Transport.initial ∧
      (∃ binding, client.profile.binding? .setBan = some binding ∧
        binding.body.signature.encode longBan = .ok longBanParams) ∧
      (run .setBan longBan).sent = [] ∧ (run .setBan longBan).state.prepared = 1 ∧
      (run .setBan longBan).traced.outcome = .error (.escape (.tooLong none)) := by
  intro transport client run
  let binding : Binding Dialect := ⟨.setBan, .v17, none, Binding.setBanSignature, .null, .asSent⟩
  let call : Call := ⟨.setBan, longBan⟩
  have bound : client.profile.binding? call.operation = some binding := rfl
  have encoded : binding.body.signature.encode longBan = .ok longBanParams := rfl
  have free : ¬ Reserved longBan := by decide
  have called : run .setBan longBan = client.call (fun _ => .http 200 []) Transport.initial call :=
    client.callWith_of_free _ _ _ free
  have silent := transport.send_of_fault (fun _ => .http 200 []) Transport.initial "setban" _
    itemFaults_longBanParams
  have sends : (run .setBan longBan).sent = [] := by
    rw [called, call_sent_of_encoded _ _ bound encoded]
    exact congrArg Attempt.sent silent
  have leaves : (run .setBan longBan).state = ⟨1, false⟩ := by
    rw [called, call_state_of_encoded _ _ bound encoded]
    exact congrArg Attempt.state silent
  refine ⟨⟨⟨_, rfl, rfl⟩, rfl⟩, ⟨⟨_, local_target⟩, rfl⟩, ⟨binding, bound, encoded⟩, sends,
    by rw [leaves], ?_⟩
  rw [called]
  exact call_outcome_of_fault _ _ bound encoded itemFaults_longBanParams

end Client

end NodeClient
