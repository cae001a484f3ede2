import NodeClient.Proofs.Client.Outcome
import NodeClient.Proofs.Frame.Acceptance
import NodeClient.Proofs.Projection.Failures
import NodeClient.Proofs.Text.Utf8
import Mathlib

/-! # Errors that no stage makes its own

A call that gets a reply answers a result or fails with an error of the client, but for three kinds
of replies: a body that holds an integer with too many digits, a result that spells an address with
a port of digit characters that are no number, and a result that counts more milliseconds than a
floating-point number of seconds can hold. An integer that is too long to be told in a message is too
long to be read. Before there is a reply, an argument may have a name that the call has a value for, or
the encoded arguments may be such that they cannot be written.
-/

namespace NodeClient

/-- The errors of lower levels that the text of a reply to an operation leads to. -/
inductive Operation.Raises (operation : Operation) (text : String) : Escape → Prop where
  | tooLong {digits : Nat} (read : Json.read text = .error (.tooLong digits)) :
      Raises operation text (.tooLong (some digits))
  | notNumber {members : List (String × Json)} {address port : String}
      {fault : Number.IntegerFault} (read : Json.read text = .ok (.obj members))
      (spells : operation.Spells (Value.memberOrNull "result" members) address)
      (parsed : SocketAddress.parse address = .error (.notNumber port fault)) :
      Raises operation text (.notNumber port fault)
  | ratioOutOfRange {members : List (String × Json)} {milliseconds : Int}
      (read : Json.read text = .ok (.obj members))
      (counts : operation.Counts (Value.memberOrNull "result" members) milliseconds)
      (overflow : Binary64.ofRatio? milliseconds 1000 = none) :
      Raises operation text .ratioOutOfRange

namespace Client

variable {operation : Operation} {text : String}

/-- How a call may end: with a result, with an error of the client, or with one of the errors that
the text of the reply leads to. -/
def Ends (operation : Operation) (text : String) (outcome : Except Failure Canonical) : Prop :=
  (∃ value, outcome = .ok value) ∨ (∃ error, outcome = .error (.client error)) ∨
    ∃ escape, outcome = .error (.escape escape) ∧ operation.Raises text escape

/-- What is made of a response ends a call in one of these ways. -/
theorem ends_of_response {release : Release} {binding : Binding Dialect}
    {members : List (String × Json)} {response : Response}
    (bound : release.profile.binding? operation = some binding)
    (read : Json.read text = .ok (.obj members))
    (held : response.result = Value.memberOrNull "result" members) :
    Ends operation text (conclude binding.body (.ok response)) := by
  rw [conclude, Except.bind, resultOf]
  cases response.error? with
  | some error => exact .inr (.inl ⟨_, rfl⟩)
  | none =>
    dsimp only [Except.bind]
    cases decoded : binding.body.decode response.result with
    | error cause => exact .inr (.inl ⟨_, rfl⟩)
    | ok raw =>
      have failsOnly := binding.failsOnly_apply bound decoded
      dsimp only [Except.mapError]
      cases applied : binding.body.projection.apply raw with
      | ok value => exact .inl ⟨value, rfl⟩
      | error failure =>
        cases failsOnly failure applied with
        | refused error => exact .inr (.inl ⟨_, rfl⟩)
        | notNumber spells parsed =>
          exact .inr (.inr ⟨_, rfl, .notNumber read (held ▸ spells) parsed⟩)
        | tooLong stated long =>
          have inside := Value.HasInteger.of_memberOrNull (held ▸ stated)
          exact absurd ((Json.isTooLong_of_read read inside).symm.trans long) Bool.false_ne_true
        | ratioOutOfRange counts overflow =>
          exact .inr (.inr ⟨_, rfl, .ratioOutOfRange read (held ▸ counts) overflow⟩)

/-- What follows the acceptance of a reply ends a call in one of these ways. -/
theorem ends_conclude {release : Release} {binding : Binding Dialect} {id status : Nat}
    {body : List UInt8} (bound : release.profile.binding? operation = some binding) :
    Ends operation (Text.decodeLossy body)
      (conclude binding.body (Transport.accept binding.body.method id status body).outcome) := by
  rw [Transport.accept]
  split_ifs
  · exact .inr (.inl ⟨_, rfl⟩)
  · cases parsed : Response.parse (Text.decodeLossy body) with
    | error error =>
      cases error with
      | fault problem => exact .inr (.inl ⟨_, rfl⟩)
      | tooLong digits =>
        exact .inr (.inr ⟨_, rfl, .tooLong (Response.parse_eq_tooLong_iff.mp parsed)⟩)
    | ok response =>
      obtain ⟨members, read, _, carries⟩ := Response.parse_eq_ok_iff.mp parsed
      dsimp only
      split_ifs
      · exact .inr (.inl ⟨_, rfl⟩)
      · exact ends_of_response bound read carries.result

/-- The errors of lower levels that a call leads to, when the reply to its request has some text. -/
inductive Raises (client : Client) (operation : Operation) (arguments : List (String × Argument))
    (text : String) : Escape → Prop where
  | reserved {name : String} (given : name ∈ arguments.map Prod.fst)
      (taken : name = "self" ∨ name = "operation") :
      Raises client operation arguments text (.arguments (.repeated "call" name))
  | unwritable {binding : Binding Dialect} {params : List Argument} {fault : Value.WriteFault}
      {rest : List Value.WriteFault} (bound : client.profile.binding? operation = some binding)
      (encoded : binding.body.signature.encode arguments = .ok params)
      (first : Value.itemFaults params = fault :: rest) :
      Raises client operation arguments text (Escape.ofWrite fault)
  | reply {escape : Escape} (raises : operation.Raises text escape) :
      Raises client operation arguments text escape

/-- A call that gets a reply answers a result, or fails with an error of the client, or else with an
argument whose name is taken, arguments that cannot be written, or what the text of the reply has where
the operation looks at it: an integer that is too long, a port that is no number or milliseconds that
are too many. -/
theorem call_ends {client : Client} {release : Release} {state : TransportState} {url : Url}
    (profile : client.profile = release.profile) (reaches : client.transport.Reaches url)
    (isOpen : state.closed = false) (operation : Operation)
    (arguments : List (String × Argument)) (status : Nat) (body : List UInt8) :
    let outcome :=
      (client.callWith (fun _ => .http status body) state operation arguments).traced.outcome
    (∃ value, outcome = .ok value) ∨ (∃ error, outcome = .error (.client error)) ∨
      ∃ escape, outcome = .error (.escape escape) ∧
        client.Raises operation arguments (Text.decodeLossy body) escape := by
  intro outcome
  obtain ⟨call, rfl, rfl⟩ : ∃ call : Call, call.operation = operation ∧ call.arguments = arguments :=
    ⟨⟨operation, arguments⟩, rfl, rfl⟩
  by_cases reserved : Reserved call.arguments
  · obtain ⟨name, given, taken, refused⟩ := client.callWith_of_reserved (fun _ => .http status body)
      state call.operation reserved
    refine .inr (.inr ⟨_, ?_, .reserved given taken⟩)
    rw [show outcome = _ from congrArg (fun attempt => attempt.traced.outcome) refused]
    rfl
  have called : outcome = (client.call (fun _ => .http status body) state call).traced.outcome :=
    congrArg (fun attempt => attempt.traced.outcome) (client.callWith_of_free _ state _ reserved)
  rw [called]
  cases bound : client.profile.binding? call.operation with
  | none =>
    rw [call_of_unbound client _ state call bound]
    exact .inr (.inl ⟨_, rfl⟩)
  | some binding =>
    cases encoded : binding.body.signature.encode call.arguments with
    | error error =>
      rw [call_of_rejected _ state bound encoded]
      exact .inr (.inl ⟨_, rfl⟩)
    | ok params =>
      cases faults : Value.itemFaults params with
      | cons fault rest =>
        have failed := call_outcome_of_fault (fun _ => .http status body) state bound encoded faults
        exact .inr (.inr ⟨_, failed, .unwritable bound encoded faults⟩)
      | nil =>
        rw [call_outcome_of_reply reaches isOpen bound encoded faults]
        rcases ends_conclude (profile ▸ bound) with answered | failed | ⟨escape, escaped, raises⟩
        · exact .inl answered
        · exact .inr (.inl failed)
        · exact .inr (.inr ⟨escape, escaped, .reply raises⟩)

/-- A reply that is a list ends a ping with an error of the client. -/
theorem call_ends_ping :
    let transport : Transport := ⟨"http://127.0.0.1:8332", none, .null, .null, true⟩
    let client : Client := ⟨Release.profile .v20, transport, true⟩
    let outcome := (client.callWith (fun _ => .http 500 (Text.encode "[]".toList)) Transport.initial
      .ping []).traced.outcome
    (∃ value, outcome = .ok value) ∨ ∃ error, outcome = .error (.client error) := by
  intro transport client outcome
  have read : Json.read (Text.decodeLossy (Text.encode "[]".toList)) = .ok (.arr []) := by
    rw [Text.decodeLossy_encode]
    exact @Json.read_write (.arr []) trivial
  have known : client.profile.binding? .ping =
      some (Binding.entry .ping .v17 none (Binding.noArguments "ping") .null .asSent) := rfl
  have profile : client.profile = Release.profile .v20 := rfl
  have isOpen : Transport.initial.closed = false := rfl
  rcases call_ends profile (Transport.reaches_local none .null .null true) isOpen .ping [] 500
    (Text.encode "[]".toList) with answered | failed | ⟨escape, _, raises⟩
  · exact .inl answered
  · exact .inr failed
  · cases raises with
    | reserved given => exact absurd given List.not_mem_nil
    | unwritable bound encoded first =>
      obtain rfl := Option.some.inj (known.symm.trans bound)
      have plain : (Binding.noArguments "ping").encode [] = .ok [] := rfl
      obtain rfl := Except.ok.inj (plain.symm.trans encoded)
      exact nomatch first
    | reply raises =>
      cases raises with
      | tooLong long => exact nomatch read.symm.trans long
      | notNumber object => exact nomatch read.symm.trans object
      | ratioOutOfRange object => exact nomatch read.symm.trans object

/-- A reply with an added node whose port is the digit character two in superscript. -/
def superscriptPortReply : String :=
  "\x7b\"result\":[\x7b\"addednode\":\"a\",\"connected\":false,\"addresses\":[\x7b\"address\":" ++
    "\"a:\\u00b2\",\"connected\":\"no\"\x7d]\x7d],\"error\":null,\"id\":1\x7d"

theorem read_superscriptPortReply :
    let address : List (String × Json) := [("address", .str "a:²"), ("connected", .str "no")]
    let node : List (String × Json) :=
      [("addednode", .str "a"), ("connected", .bool false), ("addresses", .arr [.obj address])]
    Json.read (Text.decodeLossy (Text.encode superscriptPortReply.toList)) =
      .ok (.obj [("result", .arr [.obj node]), ("error", .null), ("id", .int 1)]) := by
  intro address node
  rw [Text.decodeLossy_encode]
  cbv

/-- Digit characters that are no number make a port that no error of the client tells of. -/
theorem call_escapes_superscriptPort :
    let transport : Transport := ⟨"http://127.0.0.1:8332", none, .null, .null, true⟩
    let client : Client := ⟨Release.profile .v20, transport, true⟩
    (client.callWith (fun _ => .http 200 (Text.encode superscriptPortReply.toList)) Transport.initial
        .getAddedNodeInfo []).traced.outcome =
      .error (.escape (.notNumber "²" .malformed)) := by
  intro transport client
  rw [callWith_of_free _ _ _ _ (by decide)]
  have bound : client.profile.binding? .getAddedNodeInfo = some (Binding.entry .getAddedNodeInfo
      .v17 none Binding.addedNodeSignature (.list .addedNodeV17) .addedNodes) := rfl
  have writable : Argument.Writable [] := rfl
  rw [call_outcome_of_reply (Transport.reaches_local none .null .null true) rfl bound rfl writable,
    Transport.accept, if_neg (by decide), Response.parse, read_superscriptPortReply]
  rfl

end Client

end NodeClient
