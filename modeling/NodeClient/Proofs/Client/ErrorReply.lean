import NodeClient.Proofs.Client.Outcome
import NodeClient.Proofs.Frame.Acceptance
import NodeClient.Proofs.Text.Utf8
import Mathlib

/-! # Errors that the server returns

A reply with a well-formed error object is the error of the server, and its code, message and data
are told as they were sent. The status of the reply has no part in this, but for 401 and 403: these
are taken for rejected credentials before the body is looked at, also when it holds an error object.
-/

namespace NodeClient

namespace Response

/-- The members of a well-formed error reply to the request with an id. -/
structure IsErrorReply (id : Nat) (members error : List (String × Json)) (code : Int)
    (message : String) : Prop where
  version : isVersion (Value.memberOrNull "jsonrpc" members) = true
  id : Value.member? "id" members = some .null ∨ Value.member? "id" members = some (.int id)
  code : Value.member? "code" error = some (.int code)
  message : Value.member? "message" error = some (.str message)
  error : Value.member? "error" members = some (.obj error)
  result : Value.memberOrNull "result" members = .null

variable {id : Nat} {members error : List (String × Json)} {code : Int} {message : String}

/-- The id of such a reply is one that is accepted for the request. -/
theorem IsErrorReply.exists_id (reply : IsErrorReply id members error code message) :
    ∃ given, Value.member? "id" members = some given ∧ isId given = true ∧
      (given.isNull || Value.equals given (.int id)) = true := by
  rcases reply.id with absent | echoed
  · exact ⟨.null, absent, rfl, rfl⟩
  · refine ⟨.int id, echoed, rfl, ?_⟩
    simp only [Value.isNull, Value.equals, Value.scalarEquals, Value.asInt?, Bool.false_or,
      beq_self_eq_true]

/-- The members of such a reply are those of a frame. -/
theorem IsErrorReply.isFrame (reply : IsErrorReply id members error code message) :
    IsFrame members := by
  obtain ⟨given, present, identifies, _⟩ := reply.exists_id
  refine ⟨isVersion_memberOrNull_iff.mp reply.version, ⟨given, present, isId_iff.mp identifies⟩,
    .inr (Option.isSome_of_mem reply.error), ?_⟩
  intro stated found _
  obtain rfl : Value.obj error = stated := Option.some.inj (reply.error.symm.trans found)
  refine ⟨⟨error, rfl, Option.isSome_of_mem reply.code, Option.isSome_of_mem reply.message⟩, ?_⟩
  exact (Value.memberOrNull_iff (· = .null) rfl).mp reply.result

/-- A body that reads as such a reply is a response with the error, which passes for one to the
request. -/
theorem parse_of_isErrorReply {body : String} (read : Json.read body = .ok (.obj members))
    (reply : IsErrorReply id members error code message) :
    ∃ response, parse body = .ok response ∧ response.error? = some error ∧
      (response.id.isNull || Value.equals response.id (.int id)) = true := by
  obtain ⟨given, present, _, passes⟩ := reply.exists_id
  have carries : Carries ⟨Value.memberOrNull "jsonrpc" members, given,
      Value.memberOrNull "result" members, some error⟩ members :=
    ⟨rfl, (Value.memberOrNull_of_member? present).symm, rfl,
      (Value.memberOrNull_of_member? reply.error).symm⟩
  exact ⟨_, parse_eq_ok_iff.mpr ⟨members, read, reply.isFrame, carries⟩, rfl, passes⟩

end Response

namespace Transport

variable (method : String) {id status : Nat} {body : List UInt8}

/-- The two statuses of rejected credentials are decided without the body. -/
theorem accept_of_rejected (rejected : status = 401 ∨ status = 403) :
    (accept method id status body).outcome =
      .error (.client (.call ⟨method, .transport (.rejected status)⟩)) := by
  rw [accept, if_pos rejected]
  rfl

/-- A body that reads as an error reply is accepted under any other status. -/
theorem accept_of_isErrorReply {members error : List (String × Json)} {code : Int}
    {message : String} (other : ¬ (status = 401 ∨ status = 403))
    (read : Json.read (Text.decodeLossy body) = .ok (.obj members))
    (reply : Response.IsErrorReply id members error code message) :
    ∃ response, (accept method id status body).outcome = .ok response ∧
      response.error? = some error := by
  obtain ⟨response, parsed, held, passes⟩ := Response.parse_of_isErrorReply read reply
  refine ⟨response, ?_, held⟩
  rw [accept, if_neg other, parsed]
  have same : (!response.id.isNull && !Value.equals response.id (.int id)) = false := by
    rw [← Bool.not_or, passes, Bool.not_true]
  simp only [same, Bool.false_eq_true, ↓reduceIte]
  rfl

end Transport

namespace Client

/-- A well-formed error reply to a request that was sent is told as the error that the server returned,
with the code, the message and the data of its error object, under every status but 401 and 403; under
these it is told as rejected credentials. -/
theorem call_of_errorReply (client : Client) (state : TransportState) (call : Call) (status : Nat)
    {url : Url} {binding : Binding Dialect} {params : List Argument} {body : List UInt8}
    {members error : List (String × Json)} {code : Int} {message : String}
    (reaches : client.transport.Reaches url) (isOpen : state.closed = false)
    (bound : client.profile.binding? call.operation = some binding)
    (encoded : binding.body.signature.encode call.arguments = .ok params)
    (writable : Argument.Writable params)
    (read : Json.read (Text.decodeLossy body) = .ok (.obj members))
    (reply : Response.IsErrorReply (state.prepared + 1) members error code message) :
    (¬ (status = 401 ∨ status = 403) →
      (client.call (fun _ => .http status body) state call).traced.outcome =
        .error (.client (.call ⟨binding.body.method,
          .returned (.int code) (.str message) (Value.memberOrNull "data" error)⟩))) ∧
    (status = 401 ∨ status = 403 →
      (client.call (fun _ => .http status body) state call).traced.outcome =
        .error (.client (.call ⟨binding.body.method, .transport (.rejected status)⟩))) := by
  rw [call_outcome_of_reply reaches isOpen bound encoded writable]
  constructor
  · intro other
    obtain ⟨response, accepted, held⟩ :=
      Transport.accept_of_isErrorReply binding.body.method other read reply
    have returned : returnedError binding.body.method error = ⟨binding.body.method,
        .returned (.int code) (.str message) (Value.memberOrNull "data" error)⟩ := by
      simp only [returnedError, reply.code, reply.message, Option.getD_some]
    rw [accepted]
    simp only [conclude, Except.bind, resultOf, held, Dialect.method] at returned ⊢
    rw [returned]
  · intro rejected
    rw [Transport.accept_of_rejected _ rejected]
    rfl

/-- The error reply of a server that lacks a method, to the first request. -/
def unknownMethodReply : String :=
  "\x7b\"result\":null,\"error\":\x7b\"code\":-32601,\"message\":\"Method not found\"," ++
    "\"data\":\"ping\"\x7d,\"id\":1\x7d"

private theorem read_unknownMethodReply :
    let error : List (String × Json) :=
      [("code", .int (-32601)), ("message", .str "Method not found"), ("data", .str "ping")]
    let members : List (String × Json) :=
      [("result", .null), ("error", .obj error), ("id", .int 1)]
    Json.read (Text.decodeLossy (Text.encode unknownMethodReply.toList)) = .ok (.obj members) ∧
      Response.IsErrorReply 1 members error (-32601) "Method not found" := by
  intro error members
  rw [Text.decodeLossy_encode]
  refine ⟨by cbv, ?_⟩
  constructor
  · rfl
  · exact .inr rfl
  all_goals rfl

/-- Under a status that is no success, the error of the server is told all the same. -/
theorem call_of_errorReply_notFound :
    let transport : Transport := ⟨"http://127.0.0.1:8332", none, .null, .null, true⟩
    let client : Client := ⟨Release.profile .v20, transport, true⟩
    (client.call (fun _ => .http 404 (Text.encode unknownMethodReply.toList)) Transport.initial
        ⟨.ping, []⟩).traced.outcome =
      .error (.client (.call
        ⟨"ping", .returned (.int (-32601)) (.str "Method not found") (.str "ping")⟩)) := by
  intro transport client
  obtain ⟨read, reply⟩ := read_unknownMethodReply
  have bound : client.profile.binding? .ping =
      some (Binding.entry .ping .v17 none (Binding.noArguments "ping") .null .asSent) := rfl
  have writable : Argument.Writable [] := rfl
  have outcomes := call_of_errorReply client Transport.initial ⟨.ping, []⟩ 404
    (Transport.reaches_local none .null .null true) rfl bound rfl writable read reply
  exact outcomes.1 (by decide)

/-- Under status 401 the same reply is told as rejected credentials, and the error object that the
server returned is lost. -/
theorem call_errorReply_unauthorized :
    let transport : Transport := ⟨"http://127.0.0.1:8332", none, .null, .null, true⟩
    let client : Client := ⟨Release.profile .v20, transport, true⟩
    let body := Text.encode unknownMethodReply.toList
    (∃ members error, Json.read (Text.decodeLossy body) = .ok (.obj members) ∧
      Response.IsErrorReply 1 members error (-32601) "Method not found") ∧
    (client.call (fun _ => .http 401 body) Transport.initial ⟨.ping, []⟩).traced.outcome =
      .error (.client (.call ⟨"ping", .transport (.rejected 401)⟩)) := by
  intro transport client body
  refine ⟨⟨_, _, read_unknownMethodReply⟩, ?_⟩
  have bound : client.profile.binding? .ping =
      some (Binding.entry .ping .v17 none (Binding.noArguments "ping") .null .asSent) := rfl
  have writable : Argument.Writable [] := rfl
  rw [call_outcome_of_reply (Transport.reaches_local none .null .null true) rfl bound rfl writable,
    Transport.accept_of_rejected _ (.inl rfl)]
  rfl

end Client

end NodeClient
