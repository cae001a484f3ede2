import NodeClient.Proofs.Client.Echo
import NodeClient.Proofs.Text.Utf8
import Mathlib

/-! # What a session leaves behind

A turn adds one to the count of requests prepared, or nothing if the inquiry is refused, and changes
nothing else. So the requests of a session are numbered one after another, as long as each can be
written, and what came before a turn with a server that echoes ids is not seen in its outcome. A
request that cannot be written leaves a gap in the numbers.
-/

namespace NodeClient

/-- A request uses up one number, whatever becomes of it. -/
theorem Transport.send_state (transport : Transport) (server : Server) (state : TransportState)
    (method : String) (params : List Argument) :
    (transport.send server state method params).state =
      { state with prepared := state.prepared + 1 } := by
  rcases send_cases server method transport state params with ⟨escape, silent⟩ | ⟨url, exchange⟩
  · rw [silent]
    rfl
  · rw [exchange]

namespace Client

variable {client : Client} {state : TransportState}

/-- The parameters that an inquiry leads to, if it is not refused, can be written. -/
def Writes (client : Client) (inquiry : Inquiry) : Prop :=
  ∀ method params, client.requested? inquiry = some (method, params) → Argument.Writable params

/-- What one turn does: a refused inquiry sends nothing and leaves the state as it was, and any
other is one request of the transport. -/
theorem answer_step (client : Client) (server : Server) (state : TransportState)
    (inquiry : Inquiry) :
    (client.requested? inquiry = none ∧ (client.answer server state inquiry).sent = [] ∧
      (client.answer server state inquiry).state = state) ∨
    ∃ method params, client.requested? inquiry = some (method, params) ∧
      (client.answer server state inquiry).sent =
        (client.transport.send server state method params).sent ∧
      (client.answer server state inquiry).state =
        (client.transport.send server state method params).state := by
  cases inquiry with
  | invoke method params =>
    refine .inr ⟨method, params, rfl, ?_, ?_⟩
    · simp only [answer, invoke, Attempt.andThen_sent, afterRequest_sent]
    · simp only [answer, invoke, Attempt.andThen, afterRequest_state]
  | call call =>
    cases names : Call.checkNames Call.generalName (call.arguments.map Prod.fst) with
    | error fault =>
      refine .inl ⟨by simp only [requested?, names], ?_⟩
      simp only [answer, callWith, names]
      exact ⟨rfl, rfl⟩
    | ok _ =>
      have sends : (client.answer server state (.call call)).sent =
          (client.call server state call).sent := by
        simp only [answer, callWith, names, Attempt.andThen_sent]
      have leaves : (client.answer server state (.call call)).state =
          (client.call server state call).state := by
        simp only [answer, callWith, names, Attempt.andThen]
      rw [sends, leaves]
      cases bound : client.profile.binding? call.operation with
      | none =>
        refine .inl ⟨by simp only [requested?, names, bound], ?_⟩
        rw [call_of_unbound _ _ _ _ bound]
        exact ⟨rfl, rfl⟩
      | some binding =>
        cases encoded : binding.body.signature.encode call.arguments with
        | error error =>
          refine .inl ⟨by simp only [requested?, names, bound, encoded], ?_⟩
          rw [call_of_rejected _ _ bound encoded]
          exact ⟨rfl, rfl⟩
        | ok params =>
          refine .inr ⟨binding.body.method, params, by simp only [requested?, names, bound, encoded],
            ?_, ?_⟩
          · exact call_sent_of_encoded server state bound encoded
          · exact call_state_of_encoded server state bound encoded

/-- A turn adds one to the count of requests if the inquiry is accepted, and changes nothing
else. -/
theorem answer_state (client : Client) (server : Server) (state : TransportState)
    (inquiry : Inquiry) :
    (client.answer server state inquiry).state =
      { state with prepared := state.prepared + (client.accepts inquiry).toNat } := by
  rcases client.answer_step server state inquiry with ⟨refused, _, same⟩ |
    ⟨_, _, requested, _, next⟩
  · rw [same, accepts, refused]
    rfl
  · rw [next, Transport.send_state, accepts, requested]
    rfl

/-- A session adds the accepted inquiries to the count of requests, and changes nothing else. -/
theorem stateAfter_eq (client : Client) (state : TransportState) (turns : List Turn) :
    client.stateAfter state turns =
      { state with
        prepared := state.prepared + turns.countP fun turn => client.accepts turn.inquiry } := by
  induction turns generalizing state with
  | nil => rfl
  | cons turn rest ih =>
    rw [stateAfter, ih, answer_state, List.countP_cons]
    cases client.accepts turn.inquiry with
    | true =>
      have sum : state.prepared + 1 + rest.countP (fun turn => client.accepts turn.inquiry) =
          state.prepared + (rest.countP (fun turn => client.accepts turn.inquiry) + 1) := by omega
      exact congrArg (TransportState.mk · state.closed) sum
    | false => rfl

/-- The attempt of a turn starts in the state that the turns before it leave. -/
theorem run_append_cons (client : Client) (state : TransportState) (before : List Turn)
    (turn : Turn) (after : List Turn) :
    (client.run state (before ++ turn :: after))[before.length]? =
      some (client.answer turn.server (client.stateAfter state before) turn.inquiry) := by
  induction before generalizing state with
  | nil => rfl
  | cons first rest ih =>
    rw [List.cons_append, run, List.length_cons, List.getElem?_cons_succ]
    exact ih _

/-- What a session sends, in order. -/
def exchanged (client : Client) (state : TransportState) (turns : List Turn) : List Sent :=
  (client.run state turns).flatMap Attempt.sent

theorem exchanged_cons (client : Client) (state : TransportState) (turn : Turn) (rest : List Turn) :
    client.exchanged state (turn :: rest) =
      (client.answer turn.server state turn.inquiry).sent ++
        client.exchanged (client.answer turn.server state turn.inquiry).state rest := by
  rw [exchanged, run, List.flatMap_cons]
  rfl

/-- Over a transport that cannot send, a session sends nothing. -/
theorem exchanged_of_not_ready {turns : List Turn} (blocked : ¬ client.transport.Ready state) :
    client.exchanged state turns = [] := by
  induction turns generalizing state with
  | nil => rfl
  | cons turn rest ih =>
    have still : ¬ client.transport.Ready (client.answer turn.server state turn.inquiry).state := by
      rw [answer_state]
      exact fun ready => blocked ⟨ready.target, ready.isOpen⟩
    rw [exchanged_cons, ih still, List.append_nil]
    rcases client.answer_step turn.server state turn.inquiry with ⟨_, silent, _⟩ |
      ⟨method, params, _, sent, _⟩
    · exact silent
    · rw [sent, client.transport.send_sent_of_not_ready _ _ _ _ blocked]

/-- What is sent in a turn is the request that the inquiry leads to, with the next number. -/
theorem numbered_of_answer {server : Server} {inquiry : Inquiry} {sent : Sent}
    (sends : sent ∈ (client.answer server state inquiry).sent) :
    ∃ method params, client.requested? inquiry = some (method, params) ∧
      sent.request.id = .int (state.prepared + 1 : Nat) ∧
      sent.body = lineOf method params (state.prepared + 1) := by
  rcases client.answer_step server state inquiry with ⟨_, silent, _⟩ |
    ⟨method, params, requested, same, _⟩
  · rw [silent] at sends
    cases sends
  · rw [same] at sends
    rcases Transport.send_cases server method client.transport state params with
      ⟨escape, silent⟩ | ⟨url, exchange⟩
    · rw [silent] at sends
      cases sends
    · rw [exchange, List.mem_singleton] at sends
      rw [sends]
      exact ⟨method, params, requested, rfl, body_of_nextRequest state rfl⟩

/-- An inquiry that leads to something that cannot be written sends nothing and uses up a number. -/
theorem answer_of_not_writes (server : Server) (state : TransportState) {inquiry : Inquiry}
    (unwritten : ¬ client.Writes inquiry) :
    (client.answer server state inquiry).sent = [] ∧
      (client.answer server state inquiry).state =
        { state with prepared := state.prepared + 1 } := by
  rw [Writes] at unwritten
  push Not at unwritten
  obtain ⟨method, params, requested, unwritable⟩ := unwritten
  obtain ⟨fault, rest, first⟩ := Argument.exists_fault_of_not_writable unwritable
  have silent := client.transport.send_of_fault server state method params first
  rcases client.answer_step server state inquiry with ⟨refused, _⟩ | ⟨_, _, same, sent, next⟩
  · cases refused.symm.trans requested
  · cases same.symm.trans requested
    rw [sent, next, silent]
    exact ⟨rfl, rfl⟩

/-- The requests of a session in which each can be written are numbered one after another. -/
theorem numbered_of_exchanged {turns : List Turn} {k : Nat} {sent : Sent}
    (writes : ∀ turn ∈ turns, client.Writes turn.inquiry)
    (kth : (client.exchanged state turns)[k]? = some sent) :
    sent.request.id = .int (state.prepared + k + 1 : Nat) ∧
      ∃ method params, sent.body = lineOf method params (state.prepared + k + 1) := by
  by_cases ready : client.transport.Ready state
  swap
  · rw [exchanged_of_not_ready ready] at kth
    exact nomatch kth
  induction turns generalizing state k with
  | nil => exact nomatch kth
  | cons turn rest ih =>
    obtain ⟨first, others⟩ := List.forall_mem_cons.mp writes
    rw [exchanged_cons] at kth
    rcases client.answer_step turn.server state turn.inquiry with ⟨_, silent, same⟩ |
      ⟨method, params, requested, sends, next⟩
    · rw [silent, same, List.nil_append] at kth
      exact ih others kth ready
    · obtain ⟨request, alone, numbered⟩ := client.transport.send_sent_of_ready turn.server state
        method params ready (first method params requested)
      rw [sends, alone, next, Transport.send_state, List.singleton_append] at kth
      cases k with
      | zero =>
        rw [List.getElem?_cons_zero, Option.some.injEq] at kth
        rw [← kth, Nat.add_zero]
        exact ⟨id_of_nextRequest state numbered, method, params, body_of_nextRequest state numbered⟩
      | succ k =>
        rw [List.getElem?_cons_succ] at kth
        have later := ih others kth ⟨ready.target, ready.isOpen⟩
        have sum : state.prepared + 1 + k + 1 = state.prepared + (k + 1) + 1 := by omega
        rwa [sum] at later

/-- A client keeps no state but the count of its requests. In a session of a new transport in which
every request can be written, the one that is sent as number `k` has the id `k`, and so has its body.
In every session the state before a turn is the count of the inquiries accepted so far, and what the
turn sends has the number after it; an inquiry that is refused sends nothing and leaves the state as it
was, and one that cannot be written sends nothing but is counted; and a turn with a server that echoes
the id of the request, or null, has the outcome and the log records that it would have as the first
one. -/
theorem run_counts_only (client : Client) (turns : List Turn) :
    ((∀ turn ∈ turns, client.Writes turn.inquiry) →
      ∀ (k : Nat) (sent : Sent), (client.exchanged Transport.initial turns)[k]? = some sent →
        sent.request.id = .int (k + 1 : Nat) ∧
          ∃ method params, sent.body = lineOf method params (k + 1)) ∧
    ∀ before turn after, turns = before ++ turn :: after →
      let state := client.stateAfter Transport.initial before
      let attempt := client.answer turn.server state turn.inquiry
      (client.run Transport.initial turns)[before.length]? = some attempt ∧
      state = ⟨before.countP fun earlier => client.accepts earlier.inquiry, false⟩ ∧
      (∀ sent ∈ attempt.sent, ∃ method params,
        client.requested? turn.inquiry = some (method, params) ∧
        sent.request.id = .int (state.prepared + 1 : Nat) ∧
        sent.body = lineOf method params (state.prepared + 1)) ∧
      (client.accepts turn.inquiry = false → attempt.sent = [] ∧ attempt.state = state) ∧
      (¬ client.Writes turn.inquiry →
        attempt.sent = [] ∧ attempt.state = ⟨state.prepared + 1, false⟩) ∧
      (turn.server.Echoes →
        attempt.traced = (client.answer turn.server Transport.initial turn.inquiry).traced) := by
  constructor
  · intro writes k sent kth
    have numbered := numbered_of_exchanged writes kth
    rwa [Transport.initial, Nat.zero_add] at numbered
  · rintro before turn after rfl
    have counted := client.stateAfter_eq Transport.initial before
    rw [Transport.initial, Nat.zero_add] at counted
    refine ⟨client.run_append_cons _ before turn after, counted, ?_, ?_, ?_, ?_⟩
    · exact fun sent sends => numbered_of_answer sends
    · intro refused
      rcases client.answer_step turn.server (client.stateAfter Transport.initial before)
        turn.inquiry with ⟨_, silent, same⟩ | ⟨_, _, requested, _⟩
      · exact ⟨silent, same⟩
      · rw [accepts, requested] at refused
        cases refused
    · intro unwritten
      have isOpen : (client.stateAfter Transport.initial before).closed = false :=
        congrArg TransportState.closed counted
      rw [← isOpen]
      exact answer_of_not_writes _ _ unwritten
    · intro echoes
      exact answer_alike turn.inquiry (congrArg TransportState.closed counted) echoes

/-- A reply to a ping with some id. -/
def pong (id : String) : List UInt8 :=
  Text.encode ("\x7b\"result\":null,\"error\":null,\"id\":" ++ id ++ "\x7d").toList

/-- A server that answers pings, with the id of the first and of the second request, and with null
as the id of the later ones. -/
def pingServer : Server := fun sent =>
  .http 200 (match sent.request.id with
    | .int 1 => pong "1"
    | .int 2 => pong "2"
    | _ => pong "null")

/-- What it answers to the request with an id states that id, or null. -/
theorem states_pong (id : Nat) :
    ∃ body, (∀ sent, pingServer (Sent.numbered sent id) = .http 200 body) ∧
      States [("result", .null), ("error", .null), ("id", .null)] id body := by
  by_cases first : id = 1
  · refine ⟨pong "1", fun sent => ?_, .int id, .inr rfl, ?_⟩
    · rw [first]
      rfl
    · rw [pong, Text.decodeLossy_encode, first]
      cbv
  by_cases second : id = 2
  · refine ⟨pong "2", fun sent => ?_, .int id, .inr rfl, ?_⟩
    · rw [second]
      rfl
    · rw [pong, Text.decodeLossy_encode, second]
      cbv
  · refine ⟨pong "null", fun sent => ?_, .null, .inl rfl, ?_⟩
    · rw [pingServer, Sent.numbered]
      dsimp only
      split
      · next same => exact absurd (Int.ofNat.inj (Value.int.inj same)) first
      · next same => exact absurd (Int.ofNat.inj (Value.int.inj same)) second
      · rfl
    · rw [pong, Text.decodeLossy_encode]
      cbv

theorem pingServer_echoes : pingServer.Echoes := by
  intro sent first second
  obtain ⟨body, served, states⟩ := states_pong first
  obtain ⟨other, served', states'⟩ := states_pong second
  rw [served, served']
  exact .echoed states states'

/-- Release 25 refuses the flag for the transport, and the ping after that fails on its connection.
The second ping is the second request sent, and is answered as if it were the first. -/
theorem run_counts_only_ping :
    let transport : Transport := ⟨"http://127.0.0.1:8332", none, .null, .null, true⟩
    let client : Client := ⟨Release.profile .v25, transport, true⟩
    let addNode : Inquiry := .call ⟨.addNode, [("node", .str "n:8333"),
      ("command", .const (.addNode .onetry)), ("v2transport", .bool true)]⟩
    let ping : Inquiry := .call ⟨.ping, []⟩
    let turns : List Turn :=
      [⟨addNode, pingServer⟩, ⟨ping, fun _ => .connectionFailed "refused"⟩, ⟨ping, pingServer⟩]
    (∃ sent, (client.exchanged Transport.initial turns)[1]? = some sent ∧
      sent.request.id = .int 2) ∧
    (client.answer pingServer Transport.initial addNode).sent = [] ∧
    ∃ attempt, (client.run Transport.initial turns)[2]? = some attempt ∧
      attempt.traced = (client.answer pingServer Transport.initial ping).traced := by
  intro transport client addNode ping turns
  obtain ⟨numbered, counted⟩ := run_counts_only client turns
  have writes : ∀ turn ∈ turns, client.Writes turn.inquiry := by
    intro turn given method params requested
    rcases List.mem_cons.mp given with rfl | given
    · cases requested
    · have ping : turn.inquiry = ping := by
        rcases List.mem_cons.mp given with rfl | given
        · rfl
        · rw [List.mem_singleton.mp given]
      rw [ping] at requested
      cases requested
      rfl
  have sends : (client.exchanged Transport.initial turns)[1]?.isSome = true := by decide +kernel
  obtain ⟨sent, second⟩ := Option.isSome_iff_exists.1 sends
  obtain ⟨-, -, -, refused, -⟩ := counted [] _ _ rfl
  obtain ⟨last, -, -, -, -, alike⟩ := counted (turns.take 2) ⟨ping, pingServer⟩ [] rfl
  refine ⟨⟨sent, second, (numbered writes 1 sent second).1⟩, ?_, ?_⟩
  · exact (refused rfl).1
  · exact ⟨_, last, alike pingServer_echoes⟩

/-- A ban with a time of 4301 digits is followed by a ping. The ping is the first request sent, with the
number of the second. -/
theorem exchanged_gap_longBan :
    let transport : Transport := ⟨"http://127.0.0.1:8332", none, .null, .null, true⟩
    let client : Client := ⟨Release.profile .v26, transport, true⟩
    let turns : List Turn := [⟨.call ⟨.setBan, longBan⟩, pingServer⟩, ⟨.call ⟨.ping, []⟩, pingServer⟩]
    ∃ sent, (client.exchanged Transport.initial turns)[0]? = some sent ∧
      sent.request.id = .int 2 := by
  intro transport client turns
  have requested : client.requested? (.call ⟨.setBan, longBan⟩) = some ("setban", longBanParams) := rfl
  have unwritten : ¬ client.Writes (.call ⟨.setBan, longBan⟩) := fun writes => by
    have writable := writes _ _ requested
    cases itemFaults_longBanParams.symm.trans writable
  obtain ⟨silent, counted⟩ := answer_of_not_writes pingServer Transport.initial unwritten
  have ready : transport.Ready ⟨1, false⟩ :=
    ⟨⟨_, (Transport.reaches_local none .null .null true).target⟩, rfl⟩
  have free : ¬ Reserved ([] : List (String × Argument)) := by decide
  let ping : Call := ⟨.ping, []⟩
  have bound : client.profile.binding? ping.operation = some _ := rfl
  obtain ⟨sent, alone, request⟩ := call_exchanges pingServer ⟨1, false⟩ bound rfl rfl ready
  refine ⟨sent, ?_, id_of_nextRequest _ request⟩
  have pinged : (client.answer pingServer ⟨1, false⟩ (.call ⟨.ping, []⟩)).sent = [sent] := by
    rw [answer, callWith_of_free _ _ _ _ free]
    exact alone
  rw [exchanged_cons, exchanged_cons]
  dsimp only
  rw [silent, counted, List.nil_append]
  exact congrArg (fun requests : List Sent => (requests ++ _)[0]?) pinged

end Client

end NodeClient
