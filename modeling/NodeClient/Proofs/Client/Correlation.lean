import NodeClient.Proofs.Client.Session
import NodeClient.Proofs.Frame.Acceptance

/-! # Replies and the requests that they answer

The requests of a transport are numbered, and a reply is taken for the answer to one if its id is null or
the number of the request. Ids are compared loosely, so the reply to the first request may also have the
id `true`, which counts as 1. No other reply is an answer to a request, however many went before it.
-/

namespace NodeClient

/-- An id with which a reply is taken for the answer to the request with a number. -/
inductive Answers (number : Nat) : Json → Prop where
  | null : Answers number .null
  | number : Answers number (.int number)
  | flag (first : number = 1) : Answers number (.bool true)

/-- The states that a transport comes to, with the count of its requests: it is new, it sends a request
to a server that does with it what it likes, and it may be closed. -/
inductive Transport.Reached (transport : Transport) : Nat → TransportState → Prop where
  | initial : Reached transport 0 Transport.initial
  | send {count : Nat} {state : TransportState} (before : Reached transport count state)
      (server : Server) (method : String) (params : List Argument) :
      Reached transport (count + 1) (transport.send server state method params).state
  | close {count : Nat} {state : TransportState} (before : Reached transport count state) :
      Reached transport count (transport.close state)

/-- A value that may identify a request passes for the id of the next one exactly when it answers it. -/
theorem Response.Identifies.passes_iff {given : Json} (identifies : Identifies given) (count : Nat) :
    (given.isNull || Value.equals given (.int (count + 1 : Nat))) = true ↔
      Answers (count + 1) given := by
  cases identifies with
  | null => exact iff_of_true rfl .null
  | text value => exact iff_of_false (by rintro ⟨⟩) (by rintro ⟨⟩)
  | number value =>
    simp only [Value.isNull, Value.equals, Value.scalarEquals, Value.asInt?, Bool.false_or,
      beq_iff_eq]
    constructor
    · rintro rfl
      exact .number
    · rintro ⟨⟩
      rfl
  | flag value =>
    cases value with
    | false =>
      refine iff_of_false ?_ (by rintro ⟨⟩)
      simp only [Value.isNull, Value.equals, Value.scalarEquals, Value.asInt?, Bool.false_or,
        beq_iff_eq, Bool.false_eq_true, ↓reduceIte]
      omega
    | true =>
      simp only [Value.isNull, Value.equals, Value.scalarEquals, Value.asInt?, Bool.false_or,
        beq_iff_eq, ↓reduceIte]
      constructor
      · exact fun one => .flag (by omega)
      · rintro (_ | _ | ⟨first⟩)
        rw [first]
        rfl

namespace Transport

variable {transport : Transport} {state : TransportState} {count : Nat}

/-- The count that a transport keeps is that of its requests. -/
theorem Reached.prepared (reached : transport.Reached count state) : state.prepared = count := by
  induction reached with
  | initial => rfl
  | send _ server method params before => rw [send_state, before]
  | close _ before => exact before

section

variable (method : String) (id status : Nat) (body : List UInt8)

/-- A reply is accepted exactly when its status is not that of rejected credentials and its body reads
as a frame with an id that passes; the response carries the members of the frame. -/
theorem accept_eq_ok_iff {response : Response} :
    (accept method id status body).outcome = .ok response ↔
      ¬ (status = 401 ∨ status = 403) ∧
        (response.id.isNull || Value.equals response.id (.int id)) = true ∧
        ∃ members, Json.read (Text.decodeLossy body) = .ok (.obj members) ∧
          Response.IsFrame members ∧ response.Carries members := by
  rw [← Response.parse_eq_ok_iff, accept]
  split_ifs with rejected
  · exact iff_of_false (by rintro ⟨⟩) fun accepted => accepted.1 rejected
  · rw [and_iff_right rejected]
    cases parsed : Response.parse (Text.decodeLossy body) with
    | error error => cases error <;> exact iff_of_false (by rintro ⟨⟩) (by rintro ⟨_, ⟨⟩⟩)
    | ok framed =>
      dsimp only
      rw [← Bool.not_or]
      cases passes : framed.id.isNull || Value.equals framed.id (.int id) with
      | true =>
        constructor
        · rintro ⟨⟩
          exact ⟨passes, rfl⟩
        · rintro ⟨_, ⟨⟩⟩
          rfl
      | false =>
        refine iff_of_false (by rintro ⟨⟩) ?_
        rintro ⟨passed, ⟨⟩⟩
        exact Bool.false_ne_true (passes.symm.trans passed)

/-- A body that reads as a value is accepted or refused with an error of the transport. -/
theorem accept_cases {value : Json} (read : Json.read (Text.decodeLossy body) = .ok value) :
    (∃ response, (accept method id status body).outcome = .ok response) ∨
      ∃ fault, (accept method id status body).outcome =
        .error (.client (.call ⟨method, .transport fault⟩)) := by
  rw [accept]
  split_ifs
  · exact .inr ⟨_, rfl⟩
  · cases parsed : Response.parse (Text.decodeLossy body) with
    | error error =>
      cases error with
      | fault problem => exact .inr ⟨_, rfl⟩
      | tooLong digits => cases read.symm.trans (Response.parse_eq_tooLong_iff.mp parsed)
    | ok response =>
      dsimp only
      split_ifs
      · exact .inr ⟨_, rfl⟩
      · exact .inl ⟨_, rfl⟩

/-- The id of an accepted response is the member of the reply, and answers the request. -/
theorem answers_of_accept {response : Response}
    (accepted : (accept method (count + 1) status body).outcome = .ok response) :
    ∃ members, Json.read (Text.decodeLossy body) = .ok (.obj members) ∧
      Value.member? "id" members = some response.id ∧ Answers (count + 1) response.id := by
  obtain ⟨_, passes, members, read, frame, carries⟩ := (accept_eq_ok_iff ..).mp accepted
  obtain ⟨id, stated, identifies⟩ := frame.id
  have same : response.id = id := carries.id.trans (Value.memberOrNull_of_member? stated)
  refine ⟨members, read, same ▸ stated, ?_⟩
  rw [same] at passes ⊢
  exact (identifies.passes_iff count).mp passes

end

/-- Only a reply over the network leads to a response. -/
theorem interpret_eq_ok {url : Url} {method : String} {id : Nat} {reply : Reply}
    {response : Response}
    (accepted : (transport.interpret url method id reply).outcome = .ok response) :
    ∃ status body, reply = .http status body ∧
      (accept method id status body).outcome = .ok response := by
  cases reply with
  | http status body =>
    rw [interpret] at accepted
    split_ifs at accepted
    · cases accepted
    · cases brackets : url.checkBrackets with
      | error fault =>
        rw [brackets] at accepted
        cases accepted
      | ok _ =>
        rw [brackets] at accepted
        exact ⟨status, body, rfl, accepted⟩
  | _ => cases accepted

/-- A response is what a reply to the request that was sent is accepted as. -/
theorem send_eq_ok {server : Server} {method : String} {params : List Argument}
    {response : Response}
    (answered : (transport.send server state method params).traced.outcome = .ok response) :
    ∃ url status body,
      (transport.send server state method params).sent =
        [transport.posted state method params url] ∧
      server (transport.posted state method params url) = .http status body ∧
      (accept method (state.prepared + 1) status body).outcome = .ok response := by
  rcases send_cases server method transport state params with ⟨escape, silent⟩ | ⟨url, exchange⟩
  · rw [silent] at answered
    cases answered
  · rw [exchange] at answered ⊢
    obtain ⟨status, body, reply, accepted⟩ := interpret_eq_ok answered
    exact ⟨url, status, body, rfl, reply, accepted⟩

/-- The reply to every request of a transport is only taken for its answer if the id of the reply is null,
the number of the request or, for the first request, `true`. If the request can be written, any other body
that can be read is refused with an error of the transport. -/
theorem send_answers (reached : transport.Reached count state) (server : Server) (method : String)
    (params : List Argument) :
    (∀ response, (transport.send server state method params).traced.outcome = .ok response →
      ∃ sent status body members,
        (transport.send server state method params).sent = [sent] ∧
        sent.request.id = .int (count + 1 : Nat) ∧ server sent = .http status body ∧
        Json.read (Text.decodeLossy body) = .ok (.obj members) ∧
        Value.member? "id" members = some response.id ∧ Answers (count + 1) response.id) ∧
    ∀ url status body value, transport.Reaches url → state.closed = false →
      Argument.Writable params →
      server (transport.posted state method params url) = .http status body →
      Json.read (Text.decodeLossy body) = .ok value →
      (¬ ∃ members id, value = .obj members ∧ Value.member? "id" members = some id ∧
        Answers (count + 1) id) →
      ∃ fault, (transport.send server state method params).traced.outcome =
        .error (.client (.call ⟨method, .transport fault⟩)) := by
  obtain rfl := reached.prepared
  constructor
  · intro response answered
    obtain ⟨url, status, body, sent, reply, accepted⟩ := send_eq_ok answered
    obtain ⟨members, read, stated, answers⟩ := answers_of_accept method status body accepted
    exact ⟨_, status, body, members, sent, rfl, reply, read, stated, answers⟩
  · intro url status body value reaches isOpen writable reply read other
    rw [send_of_target _ method writable isOpen reaches.target]
    dsimp only
    rw [reply, interpret_http _ reaches]
    refine (accept_cases method _ status body read).resolve_left ?_
    rintro ⟨response, accepted⟩
    obtain ⟨members, object, stated, answers⟩ := answers_of_accept method status body accepted
    exact other ⟨members, _, Except.ok.inj (read.symm.trans object), stated, answers⟩

/-- The reply with no result under an id. -/
def nullReply (id : String) : List UInt8 :=
  Text.encode ("\x7b\"result\":null,\"error\":null,\"id\":" ++ id ++ "\x7d").toList

/-- The answer to the first request is refused for the second one. -/
theorem send_answers_late :
    let transport : Transport := ⟨"http://127.0.0.1:8332", none, .null, .null, true⟩
    let server : Server := fun _ => .http 200 (nullReply "1")
    let state := (transport.send server Transport.initial "ping" []).state
    transport.Reached 1 state ∧
      ∃ fault, (transport.send server state "ping" []).traced.outcome =
        .error (.client (.call ⟨"ping", .transport fault⟩)) := by
  intro transport server state
  have reached : transport.Reached 1 state := .send .initial server "ping" []
  have read : Json.read (Text.decodeLossy (nullReply "1")) =
      .ok (.obj [("result", .null), ("error", .null), ("id", .int 1)]) := by
    rw [nullReply, Text.decodeLossy_encode]
    cbv
  refine ⟨reached, (send_answers reached server "ping" []).2 _ 200 _ _
    (reaches_local none .null .null true) ?_ rfl rfl read ?_⟩
  · exact congrArg TransportState.closed (transport.send_state server Transport.initial "ping" [])
  · rintro ⟨members, id, ⟨⟩, ⟨⟩, answers⟩
    cases answers

/-- A reply with the id `true` is taken for the answer to the first request. -/
theorem send_accepts_flag :
    let transport : Transport := ⟨"http://127.0.0.1:8332", none, .null, .null, true⟩
    ∃ response, (transport.send (fun _ => .http 200 (nullReply "true")) Transport.initial "ping"
        []).traced.outcome = .ok response ∧ response.id = .bool true := by
  intro transport
  have read : Json.read (Text.decodeLossy (nullReply "true")) =
      .ok (.obj [("result", .null), ("error", .null), ("id", .bool true)]) := by
    rw [nullReply, Text.decodeLossy_encode]
    cbv
  have reaches := reaches_local none .null .null true
  have writable : Argument.Writable [] := rfl
  rw [send_of_target _ "ping" writable rfl reaches.target]
  refine ⟨⟨.null, .bool true, .null, none⟩, ?_, rfl⟩
  dsimp only
  rw [interpret_http _ reaches, accept_eq_ok_iff]
  exact ⟨by decide, rfl, _, read, Response.ofMembers_eq_ok_iff.mp rfl⟩

end Transport

end NodeClient
