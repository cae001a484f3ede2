import NodeClient.Proofs.Client.Correlation

/-! # What an error of the server tells

An inquiry fails with an error of the server only if the server sent an error object in reply to its
request. The code, the message and the data of the error are the members of that object, of whatever
kind: nothing looks at them before they are told. An error that is no object with a code and a message is
refused by the transport.
-/

namespace NodeClient

/-- A round trip that failed with an error of the server. -/
abbrev Failure.returned (method : String) (code message data : Json) : Failure :=
  .client (.call ⟨method, .returned code message data⟩)

/-- An outcome is no error of the server. -/
def NotReturned {α : Type} (outcome : Except Failure α) : Prop :=
  ∀ method code message data, outcome ≠ .error (.returned method code message data)

namespace NotReturned

variable {α β : Type} {outcome : Except Failure α} {next : α → Except Failure β} {method : String}
  {code message data : Json}

/-- An error of the server behind a first stage that has none comes from the second stage. -/
theorem exists_of_bind (first : NotReturned outcome)
    (failed : outcome.bind next = .error (.returned method code message data)) :
    ∃ value, outcome = .ok value ∧ next value = .error (.returned method code message data) := by
  cases outcome with
  | error failure =>
    exact absurd (congrArg Except.error (Except.error.inj failed)) (first method code message data)
  | ok value => exact ⟨value, rfl, failed⟩

/-- An error of the server before a second stage that has none comes from the first stage. -/
theorem of_bind (others : ∀ value, NotReturned (next value))
    (failed : outcome.bind next = .error (.returned method code message data)) :
    outcome = .error (.returned method code message data) := by
  cases outcome with
  | error failure => exact congrArg Except.error (Except.error.inj failed)
  | ok value => exact absurd failed (others value method code message data)

theorem bind (first : NotReturned outcome) (others : ∀ value, NotReturned (next value)) :
    NotReturned (outcome.bind next) :=
  fun method code message data failed => first method code message data (of_bind others failed)

end NotReturned

theorem notReturned_ofProjection {α : Type} (projected : Projected α) :
    NotReturned (projected.mapError Failure.ofProjection) := by
  cases projected with
  | error failure => cases failure <;> rintro _ _ _ _ ⟨⟩
  | ok value => rintro _ _ _ _ ⟨⟩

namespace Transport

variable (transport : Transport)

theorem notReturned_accept (method : String) (id status : Nat) (body : List UInt8) :
    NotReturned (accept method id status body).outcome := by
  rw [accept]
  split_ifs
  · rintro _ _ _ _ ⟨⟩
  · cases Response.parse (Text.decodeLossy body) with
    | error error => cases error <;> rintro _ _ _ _ ⟨⟩
    | ok response =>
      dsimp only
      split_ifs <;> rintro _ _ _ _ ⟨⟩

theorem notReturned_interpret (url : Url) (method : String) (id : Nat) (reply : Reply) :
    NotReturned (transport.interpret url method id reply).outcome := by
  cases reply with
  | http status body =>
    rw [interpret]
    split_ifs
    · rintro _ _ _ _ ⟨⟩
    · cases url.checkBrackets with
      | error fault => rintro _ _ _ _ ⟨⟩
      | ok _ => exact notReturned_accept method id status body
  | _ => rintro _ _ _ _ ⟨⟩

/-- The transport does not fail with an error of the server. -/
theorem notReturned_send (server : Server) (state : TransportState) (method : String)
    (params : List Argument) :
    NotReturned (transport.send server state method params).traced.outcome := by
  rcases send_cases server method transport state params with ⟨escape, silent⟩ | ⟨url, exchange⟩
  · rw [silent]
    rintro _ _ _ _ ⟨⟩
  · rw [exchange]
    exact notReturned_interpret transport url method _ _

end Transport

namespace Client

variable {client : Client} {server : Server} {state : TransportState} {inquiry : Inquiry}

/-- What a call makes of its result. -/
def finish (dialect : Dialect) (result : Json) : Except Failure Canonical :=
  ((dialect.decode result).mapError fun cause =>
      .client (.call ⟨dialect.method, .decode cause⟩)).bind fun raw =>
    (dialect.projection.apply raw).mapError Failure.ofProjection

theorem conclude_eq (dialect : Dialect) (exchanged : Except Failure Response) :
    conclude dialect exchanged = exchanged.bind fun response =>
      (resultOf dialect.method response).outcome.bind (finish dialect) := rfl

theorem notReturned_finish (dialect : Dialect) (result : Json) :
    NotReturned (finish dialect result) := by
  refine NotReturned.bind ?_ fun raw => notReturned_ofProjection _
  cases dialect.decode result with
  | error cause => rintro _ _ _ _ ⟨⟩
  | ok raw => rintro _ _ _ _ ⟨⟩

/-- The stages of an inquiry: it sends nothing and does not fail with an error of the server, or it
makes one round trip, takes the result of the response, and goes on with it. -/
inductive Stages (client : Client) (server : Server) (state : TransportState) (inquiry : Inquiry) :
    Prop where
  | silent (sent : (client.answer server state inquiry).sent = [])
      (outcome : NotReturned (client.answer server state inquiry).traced.outcome)
  | sending (method : String) (params : List Argument) (next : Json → Except Failure Answer)
      (sent : (client.answer server state inquiry).sent =
        (client.transport.send server state method params).sent)
      (outcome : (client.answer server state inquiry).traced.outcome =
        (client.transport.send server state method params).traced.outcome.bind fun response =>
          (resultOf method response).outcome.bind next)
      (others : ∀ result, NotReturned (next result))

/-- Every inquiry goes through these stages. -/
theorem stages (client : Client) (server : Server) (state : TransportState) (inquiry : Inquiry) :
    Stages client server state inquiry := by
  cases inquiry with
  | invoke method params =>
    refine .sending method params (fun result => .ok (.asSent result)) ?_ ?_ ?_
    · simp only [answer, invoke, Attempt.andThen_sent, afterRequest_sent]
    · simp only [answer, invoke, Attempt.andThen, afterRequest_outcome, Traced.andThen_outcome,
        observeFailure_outcome]
      cases (client.transport.send server state method params).traced.outcome <;> rfl
    · rintro _ _ _ _ _ ⟨⟩
  | call call =>
    by_cases reserved : Reserved call.arguments
    · obtain ⟨name, _, _, refused⟩ :=
        client.callWith_of_reserved server state call.operation reserved
      refine .silent ?_ ?_ <;> rw [answer, refused]
      · rfl
      · rintro _ _ _ _ ⟨⟩
    have called : client.callWith server state call.operation call.arguments =
        client.call server state call := client.callWith_of_free server state call.operation reserved
    cases bound : client.profile.binding? call.operation with
    | none =>
      have refused := call_of_unbound client server state call bound
      refine .silent ?_ ?_ <;> rw [answer, called, refused]
      · rfl
      · rintro _ _ _ _ ⟨⟩
    | some binding =>
      cases encoded : binding.body.signature.encode call.arguments with
      | error error =>
        have refused := call_of_rejected server state bound encoded
        refine .silent ?_ ?_ <;> rw [answer, called, refused]
        · rfl
        · rintro _ _ _ _ ⟨⟩
      | ok params =>
        refine .sending binding.body.method params
          (fun result => (finish binding.body result).bind fun value => .ok (.canonical value)) ?_ ?_
          fun result => (notReturned_finish binding.body result).bind (by rintro _ _ _ _ _ ⟨⟩)
        · rw [answer, called]
          exact call_sent_of_encoded server state bound encoded
        rw [answer, called, Attempt.andThen, Traced.andThen_outcome,
          call_outcome_of_encoded server bound encoded, conclude_eq]
        cases (client.transport.send server state binding.body.method params).traced.outcome with
        | error failure => rfl
        | ok response =>
          dsimp only [Except.bind]
          cases (resultOf binding.body.method response).outcome <;> rfl

/-- An error of the server comes from the error object of the response. -/
theorem returned_of_resultOf {method told : String} {response : Response} {code message data : Json}
    (failed : (resultOf method response).outcome = .error (.returned told code message data)) :
    ∃ error, response.error? = some error ∧
      returnedError method error = ⟨told, .returned code message data⟩ := by
  rw [resultOf] at failed
  cases stated : response.error? with
  | none =>
    rw [stated] at failed
    cases failed
  | some error =>
    rw [stated] at failed
    injection failed with failure
    injection failure with failure
    injection failure with failure
    exact ⟨error, rfl, failure⟩

/-- What an error object with a code and a message is told as. -/
theorem returnedError_of_isErrorObject {error : List (String × Json)} (method : String)
    (object : Response.IsErrorObject (.obj error)) :
    ∃ code message, Value.member? "code" error = some code ∧
      Value.member? "message" error = some message ∧
      returnedError method error =
        ⟨method, .returned code message (Value.memberOrNull "data" error)⟩ := by
  obtain ⟨hasCode, hasMessage⟩ := Response.isErrorObject_obj_iff.mp object
  obtain ⟨code, codeStated⟩ := Option.isSome_iff_exists.mp hasCode
  obtain ⟨message, messageStated⟩ := Option.isSome_iff_exists.mp hasMessage
  refine ⟨code, message, codeStated, messageStated, ?_⟩
  rw [returnedError, codeStated, messageStated, Option.getD_some, Option.getD_some]

/-- An inquiry that fails with an error of the server has sent one request for the method that is told,
and the code, the message and the data are the members of the error object in the reply. An error in a
reply that is neither null nor an object with a code and a message is refused by the transport. -/
theorem answer_returned (client : Client) (server : Server) (state : TransportState)
    (inquiry : Inquiry) :
    (∀ method code message data,
      (client.answer server state inquiry).traced.outcome =
        .error (.client (.call ⟨method, .returned code message data⟩)) →
      ∃ sent status body members error,
        (client.answer server state inquiry).sent = [sent] ∧ sent.request.method = method ∧
        server sent = .http status body ∧
        Json.read (Text.decodeLossy body) = .ok (.obj members) ∧
        Value.member? "error" members = some (.obj error) ∧
        Value.member? "code" error = some code ∧ Value.member? "message" error = some message ∧
        Value.memberOrNull "data" error = data) ∧
    ∀ url sent status body members error, client.transport.Reaches url →
      (client.answer server state inquiry).sent = [sent] → server sent = .http status body →
      Json.read (Text.decodeLossy body) = .ok (.obj members) →
      Value.member? "error" members = some error → error ≠ .null →
      ¬ Response.IsErrorObject error →
      ∃ fault, (client.answer server state inquiry).traced.outcome =
        .error (.client (.call ⟨sent.request.method, .transport fault⟩)) := by
  constructor
  · intro method code message data failed
    cases client.stages server state inquiry with
    | silent _ outcome => exact absurd failed (outcome _ _ _ _)
    | sending wire params next sent outcome others =>
      rw [outcome] at failed
      obtain ⟨response, answered, failed⟩ :=
        (client.transport.notReturned_send server state wire params).exists_of_bind failed
      obtain ⟨error, stated, returned⟩ := returned_of_resultOf (NotReturned.of_bind others failed)
      obtain ⟨url, status, body, posted, reply, accepted⟩ := Transport.send_eq_ok answered
      obtain ⟨_, _, members, read, frame, carries⟩ := (Transport.accept_eq_ok_iff ..).mp accepted
      have held : Value.memberOrNull "error" members = .obj error := by
        rw [← carries.error, stated, Option.map_some, Option.getD_some]
      have present : Value.obj error ≠ .null := by rintro ⟨⟩
      have object := (frame.error_of_ne_null (held ▸ present)).1
      rw [held] at object
      obtain ⟨code', message', codeStated, messageStated, told⟩ :=
        returnedError_of_isErrorObject wire object
      injection returned.symm.trans told with sameMethod sameCause
      injection sameCause with sameCode sameMessage sameData
      exact ⟨_, status, body, members, error, sent.trans posted, sameMethod.symm, reply, read,
        Value.member?_of_memberOrNull held present, sameCode ▸ codeStated,
        sameMessage ▸ messageStated, sameData.symm⟩
  · intro url sent status body members error reaches sends reply read stated present other
    cases client.stages server state inquiry with
    | silent silent _ => cases silent.symm.trans sends
    | sending wire params next same outcome _ =>
      have ready : client.transport.Ready state := by
        by_contra blocked
        have silent := client.transport.send_sent_of_not_ready server state wire params blocked
        cases silent.symm.trans (same.symm.trans sends)
      have writable : Argument.Writable params := by
        by_contra unwritable
        obtain ⟨fault, rest, first⟩ := Argument.exists_fault_of_not_writable unwritable
        have failed := client.transport.send_of_fault server state wire params first
        rw [failed] at same
        cases same.symm.trans sends
      have exchange := Transport.send_of_target server wire writable ready.isOpen reaches.target
      rw [exchange] at same outcome
      obtain rfl := List.singleton_inj.mp (same.symm.trans sends)
      rw [outcome, reply, Transport.interpret_http _ reaches]
      rcases Transport.accept_cases wire (state.prepared + 1) status body read with
        ⟨response, accepted⟩ | ⟨fault, refused⟩
      · obtain ⟨_, _, members', read', frame, _⟩ := (Transport.accept_eq_ok_iff ..).mp accepted
        cases read.symm.trans read'
        exact absurd (frame.error error stated present).1 other
      · exact ⟨fault, by rw [refused]; rfl⟩

/-- The error reply to the first request, with an error object as it is spelled. -/
def errorReply (error : String) : List UInt8 :=
  Text.encode ("\x7b\"result\":null,\"error\":" ++ error ++ ",\"id\":1\x7d").toList

/-- An error without a message is refused by the transport. -/
theorem answer_returned_speechless :
    let transport : Transport := ⟨"http://127.0.0.1:8332", none, .null, .null, true⟩
    let client : Client := ⟨Release.profile .v20, transport, true⟩
    let server : Server := fun _ => .http 500 (errorReply "\x7b\"code\":-1\x7d")
    ∃ fault, (client.answer server Transport.initial (.invoke "ping" [])).traced.outcome =
      .error (.client (.call ⟨"ping", .transport fault⟩)) := by
  intro transport client server
  have reaches := Transport.reaches_local none .null .null true
  have read : Json.read (Text.decodeLossy (errorReply "\x7b\"code\":-1\x7d")) =
      .ok (.obj [("result", .null), ("error", .obj [("code", .int (-1))]), ("id", .int 1)]) := by
    rw [errorReply, Text.decodeLossy_encode]
    cbv
  have writable : Argument.Writable [] := rfl
  have sends : (client.answer server Transport.initial (.invoke "ping" [])).sent =
      (transport.send server Transport.initial "ping" []).sent := rfl
  rw [Transport.send_of_target server "ping" writable rfl reaches.target] at sends
  refine (answer_returned client server Transport.initial (.invoke "ping" [])).2 _ _ 500 _ _ _
    reaches sends rfl read rfl (by rintro ⟨⟩) ?_
  rintro ⟨_, ⟨⟩, _, message⟩
  cases message

/-- An error with a text for its code and null for its message is told as the error of the server. -/
theorem answer_returned_textCode :
    let transport : Transport := ⟨"http://127.0.0.1:8332", none, .null, .null, true⟩
    let client : Client := ⟨Release.profile .v20, transport, true⟩
    let body := errorReply "\x7b\"code\":\"x\",\"message\":null\x7d"
    (client.answer (fun _ => .http 500 body) Transport.initial (.invoke "ping" [])).traced.outcome =
      .error (.client (.call ⟨"ping", .returned (.str "x") .null .null⟩)) := by
  intro transport client body
  have reaches := Transport.reaches_local none .null .null true
  have read : Json.read (Text.decodeLossy body) =
      .ok (.obj [("result", .null), ("error", .obj [("code", .str "x"), ("message", .null)]),
        ("id", .int 1)]) := by
    rw [show body = errorReply "\x7b\"code\":\"x\",\"message\":null\x7d" from rfl, errorReply,
      Text.decodeLossy_encode]
    cbv
  have accepted :
      (Transport.accept "ping" (Transport.initial.prepared + 1) 500 body).outcome =
        .ok ⟨.null, .int 1, .null, some [("code", .str "x"), ("message", .null)]⟩ :=
    (Transport.accept_eq_ok_iff ..).mpr
      ⟨by decide, by decide, _, read, Response.ofMembers_eq_ok_iff.mp rfl⟩
  have writable : Argument.Writable [] := rfl
  simp only [answer, invoke, Attempt.andThen, afterRequest_outcome, Traced.andThen_outcome,
    observeFailure_outcome]
  rw [Transport.send_of_target _ "ping" writable rfl reaches.target]
  dsimp only
  rw [Transport.interpret_http _ reaches, accepted]
  rfl

end Client

end NodeClient
