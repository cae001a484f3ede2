import NodeClient.Client.Session
import NodeClient.Proofs.Client.Outcome
import NodeClient.Proofs.Json.Members

/-! # Servers that echo ids

A server that echoes the id of a request, or null, and takes no other notice of it, gives replies
that differ in their ids alone. The transport checks the id of a response and passes it on, and
nothing looks at it afterwards: whatever number a request has, its inquiry is answered alike.
-/

namespace NodeClient

namespace Response

/-- A response without its id. -/
def anonymous (response : Response) : Response := { response with id := .null }

variable {members : List (String × Json)} {given : Json}

theorem errorOf_setMember_id : errorOf (Value.setMember "id" given members) = errorOf members := by
  simp only [errorOf, Value.memberOrNull_setMember_of_ne (by decide : "error" ≠ "id"),
    Value.memberOrNull_setMember_of_ne (by decide : "result" ≠ "id")]

/-- Setting an id that may be one changes the id of a response, and not whether there is one. -/
theorem ofMembers_setMember_id (valid : isId given = true) :
    ofMembers (Value.setMember "id" given members) =
      (ofMembers (Value.setMember "id" .null members)).map fun response =>
        { response with id := given } := by
  have none : isId .null = true := rfl
  simp only [ofMembers, errorOf_setMember_id, Value.member?_setMember_self, valid, none,
    Value.memberOrNull_setMember_of_ne (by decide : "jsonrpc" ≠ "id"),
    Value.memberOrNull_setMember_of_ne (by decide : "result" ≠ "id"),
    Value.member?_setMember_of_ne (by decide : "result" ≠ "id"),
    Value.member?_setMember_of_ne (by decide : "error" ≠ "id"), Bool.not_true, Bool.false_eq_true,
    ↓reduceIte]
  split_ifs
  · rfl
  · rfl
  · cases errorOf members <;> rfl

end Response

/-- A body reads as an object with some members, and with the id of a request, or null, as its
id. -/
def States (members : List (String × Json)) (id : Nat) (body : List UInt8) : Prop :=
  ∃ given, (given = .null ∨ given = .int id) ∧
    Json.read (Text.decodeLossy body) = .ok (.obj (Value.setMember "id" given members))

/-- Replies to two requests that differ in their ids say the same: they are one reply that has no id
if it is a response, or their bodies differ in the ids that they echo. -/
inductive Reply.Alike (first second : Nat) : Reply → Reply → Prop where
  | same {reply : Reply}
      (unnumbered : ∀ status body response, reply = .http status body →
        Response.parse (Text.decodeLossy body) = .ok response → response.id = .null) :
      Alike first second reply reply
  | echoed {status : Nat} {body other : List UInt8} {members : List (String × Json)}
      (body_states : States members first body) (other_states : States members second other) :
      Alike first second (.http status body) (.http status other)

/-- What is sent, with another id. -/
def Sent.numbered (sent : Sent) (id : Nat) : Sent :=
  { sent with request := { sent.request with id := .int id } }

/-- A server whose replies echo the id of a request, or null, and depend on it in no other way. -/
def Server.Echoes (server : Server) : Prop :=
  ∀ sent first second, Reply.Alike first second (server (Sent.numbered sent first))
    (server (Sent.numbered sent second))

/-- Two traced responses are the same but for their ids. -/
structure SameButId (left right : Traced Failure Response) : Prop where
  records : left.records = right.records
  outcome : left.outcome.map Response.anonymous = right.outcome.map Response.anonymous

namespace SameButId

theorem refl (traced : Traced Failure Response) : SameButId traced traced := ⟨rfl, rfl⟩

theorem of_pure {left right : Response} (same : left.anonymous = right.anonymous) :
    SameButId (pure left) (pure right) :=
  ⟨rfl, congrArg Except.ok same⟩

/-- Both fail alike, or both are responses that differ in their ids. -/
theorem cases {left right : Traced Failure Response} (same : SameButId left right) :
    left = right ∨ ∃ records first second, first.anonymous = second.anonymous ∧
      left = ⟨records, .ok first⟩ ∧ right = ⟨records, .ok second⟩ := by
  obtain ⟨records, outcome⟩ := left
  obtain ⟨records', outcome'⟩ := right
  obtain ⟨rfl, outcomes⟩ := same
  cases outcome with
  | error failure =>
    cases outcome' with
    | error failure' =>
      obtain rfl := Except.error.inj outcomes
      exact .inl rfl
    | ok second => exact nomatch outcomes
  | ok first =>
    cases outcome' with
    | error failure' => exact nomatch outcomes
    | ok second => exact .inr ⟨records, first, second, Except.ok.inj outcomes, rfl, rfl⟩

end SameButId

namespace Transport

variable (method : String) {first second status : Nat} {body other : List UInt8}

/-- An id that is null or that of the request passes. -/
theorem id_passes {given : Json} {id : Nat} (echo : given = .null ∨ given = .int id) :
    (!given.isNull && !Value.equals given (.int id)) = false ∧ Response.isId given = true := by
  rcases echo with rfl | rfl
  · exact ⟨rfl, rfl⟩
  · refine ⟨?_, rfl⟩
    simp only [Value.isNull, Value.equals, Value.scalarEquals, Value.asInt?, beq_self_eq_true,
      Bool.not_false, Bool.not_true, Bool.and_false]

/-- What a body that echoes the id is accepted as, by what it would be without an id. -/
theorem accept_of_states {members : List (String × Json)} {id : Nat}
    (accepted : ¬ (status = 401 ∨ status = 403)) (states : States members id body) :
    ∃ given, accept method id status body =
      match Response.ofMembers (Value.setMember "id" .null members) with
      | .error problem => fault method (.invalidResponse status problem)
      | .ok response => pure { response with id := given } := by
  obtain ⟨given, echo, read⟩ := states
  obtain ⟨passes, valid⟩ := id_passes echo
  refine ⟨given, ?_⟩
  rw [accept, if_neg accepted, Response.parse, read]
  simp only [Response.ofJson, Response.ofMembers_setMember_id valid]
  cases Response.ofMembers (Value.setMember "id" .null members) with
  | error problem => rfl
  | ok response => simp only [Except.map, Except.mapError, passes, Bool.false_eq_true, ↓reduceIte]

/-- Bodies that echo their ids are accepted alike. -/
theorem accept_echoed {members : List (String × Json)} (body_states : States members first body)
    (other_states : States members second other) :
    SameButId (accept method first status body) (accept method second status other) := by
  by_cases rejected : status = 401 ∨ status = 403
  · rw [accept, accept, if_pos rejected, if_pos rejected]
    exact .refl _
  · obtain ⟨given, body_accepted⟩ := accept_of_states method rejected body_states
    obtain ⟨given', other_accepted⟩ := accept_of_states method rejected other_states
    rw [body_accepted, other_accepted]
    cases Response.ofMembers (Value.setMember "id" .null members) with
    | error problem => exact .refl _
    | ok response => exact .of_pure rfl

/-- A body that is no response with an id is accepted whatever the id of the request. -/
theorem accept_unnumbered
    (unnumbered : ∀ response, Response.parse (Text.decodeLossy body) = .ok response →
      response.id = .null) :
    accept method first status body = accept method second status body := by
  rw [accept, accept]
  cases parsed : Response.parse (Text.decodeLossy body) with
  | error problem => cases problem <;> rfl
  | ok response =>
    simp only [unnumbered response parsed, Value.isNull, Bool.not_true, Bool.false_and,
      Bool.false_eq_true, ↓reduceIte]

variable {transport : Transport} {url : Url}

/-- Replies that say the same mean the same. -/
theorem interpret_alike {left right : Reply} (alike : Reply.Alike first second left right) :
    SameButId (transport.interpret url method first left)
      (transport.interpret url method second right) := by
  cases alike with
  | same unnumbered =>
    cases left with
    | http status body =>
      have accepted : accept method first status body = accept method second status body :=
        accept_unnumbered method fun response => unnumbered status body response rfl
      rw [interpret, interpret, accepted]
      exact .refl _
    | _ => exact .refl _
  | @echoed status body other members body_states other_states =>
    rw [interpret, interpret]
    split_ifs
    · exact .refl _
    · cases url.checkBrackets with
      | error fault => exact .refl _
      | ok done => exact accept_echoed method body_states other_states

/-- An exchange over an open transport with a server that echoes ids does not depend on the count of
requests. -/
theorem send_alike {server : Server} {state : TransportState} (params : List Argument)
    (isOpen : state.closed = false) (echoes : server.Echoes) :
    SameButId (transport.send server state method params).traced
      (transport.send server initial method params).traced := by
  by_cases writable : Argument.Writable params
  swap
  · obtain ⟨fault, rest, first⟩ := Argument.exists_fault_of_not_writable writable
    rw [send_of_fault _ _ _ _ _ first, send_of_fault _ _ _ _ _ first]
    exact .refl _
  cases target : (Url.parse transport.address).bind Url.target with
  | error fault =>
    rw [send_of_no_target _ _ _ _ _ writable target, send_of_no_target _ _ _ _ _ writable target]
    exact .refl _
  | ok url =>
    rw [send_of_target _ _ writable isOpen target, send_of_target _ _ writable rfl target]
    exact interpret_alike method
      (echoes (transport.posted initial method params url) (state.prepared + 1) 1)

end Transport

namespace Client

variable {client : Client} {server : Server} {state : TransportState}

/-- What follows an exchange does not look at the id of the response. -/
theorem resultOf_observed {left right : Traced Failure Response} (same : SameButId left right)
    (method : String) :
    (observeFailure method left).andThen (resultOf method) =
      (observeFailure method right).andThen (resultOf method) := by
  rcases same.cases with rfl | ⟨records, first, second, anonymous, rfl, rfl⟩
  · rfl
  · have results : resultOf method first = resultOf method second :=
      calc
        resultOf method first = resultOf method first.anonymous := rfl
        _ = resultOf method second.anonymous := by rw [anonymous]
        _ = resultOf method second := rfl
    simp only [observeFailure, Traced.andThen, results]

theorem invoke_alike (client : Client) (method : String) (params : List Argument)
    (isOpen : state.closed = false) (echoes : server.Echoes) :
    (client.invoke server state method params).traced =
      (client.invoke server Transport.initial method params).traced := by
  have same : SameButId (client.transport.send server state method params).traced
      (client.transport.send server Transport.initial method params).traced :=
    Transport.send_alike method params isOpen echoes
  simp only [invoke, afterRequest, Attempt.andThen, resultOf_observed same]
  split_ifs
  · rfl
  · rfl

/-- An inquiry is answered, with the same log records, as by a client that was asked nothing yet. -/
theorem answer_alike (inquiry : Inquiry) (isOpen : state.closed = false) (echoes : server.Echoes) :
    (client.answer server state inquiry).traced =
      (client.answer server Transport.initial inquiry).traced := by
  have invoked := fun method params => client.invoke_alike method params isOpen echoes
  cases inquiry with
  | invoke method params => simp only [answer, Attempt.andThen, invoked]
  | call call =>
    have raws : (client.raw server state call).traced =
        (client.raw server Transport.initial call).traced := by
      rw [raw, raw]
      cases client.profile.binding call.operation with
      | error error => rfl
      | ok binding =>
        cases encoded : binding.body.signature.encode call.arguments with
        | error error => simp only [encoded]; rfl
        | ok params => simp only [encoded, Attempt.andThen, invoked]
    simp only [answer, callWith]
    cases Call.checkNames Call.generalName (call.arguments.map Prod.fst) with
    | error fault => rfl
    | ok _ => simp only [Client.call, Attempt.andThen, raws]

end Client

end NodeClient
