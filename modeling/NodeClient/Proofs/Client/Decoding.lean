import NodeClient.Proofs.Client.Outcome
import NodeClient.Proofs.Projection.Availability
import NodeClient.Proofs.Shape.Conformance
import NodeClient.Proofs.Text.Utf8
import Mathlib

/-! # Which results are accepted

A result of a bound operation is decoded exactly when it conforms to the shape of the binding, and
holds what was sent. One that does not conform ends the call with an error of the wire method.
-/

namespace NodeClient

/-- No record in a shape of the table declares a name twice. -/
theorem Shape.distinct_of_bound {release : Release} {operation : Operation} {binding : Binding Dialect}
    (bound : release.profile.binding? operation = some binding) :
    binding.body.shape.distinct := by
  have each : ∀ binding ∈ Binding.table, binding.body.shape.distinct := by decide
  exact each binding (Binding.of_binding? bound).1

/-- Whether a result is accepted, what is answered for it, and how a call ends for which it is
refused. -/
theorem Client.raw_of_result {release : Release} {operation : Operation}
    {binding : Binding Dialect} (bound : release.profile.binding? operation = some binding)
    (result : Json) :
    ((∃ raw, binding.body.decode result = .ok raw) ↔ binding.body.shape.Conforms result) ∧
      (∀ raw, binding.body.decode result = .ok raw → binding.body.shape.Holds result raw) ∧
      (¬ binding.body.shape.Conforms result → ∃ problem problems,
        binding.body.decode result = .error (.mismatch (problem :: problems)) ∧
        ∀ (client : Client) (server : Server) (state : TransportState) (call : Call)
          (params : List Argument), client.profile = release.profile →
          call.operation = operation → binding.body.signature.encode call.arguments = .ok params →
          (client.invoke server state binding.body.method params).traced.outcome = .ok result →
          (client.raw server state call).traced.outcome =
            .error (.client (.call ⟨binding.body.method,
              .decode (.mismatch (problem :: problems))⟩))) := by
  have accepts : (∃ raw, binding.body.decode result = .ok raw) ↔
      binding.body.shape.Conforms result := by
    simp only [Dialect.decode_eq_ok_iff]
    exact Shape.exists_read_iff _ _
  refine ⟨accepts, ?_, ?_⟩
  · intro raw decoded
    exact Shape.holds_of_read (Shape.distinct_of_bound bound) (Dialect.decode_eq_ok_iff.mp decoded)
  · intro other
    have refused : ∃ problem problems,
        binding.body.decode result = .error (.mismatch (problem :: problems)) := by
      have founded := Shape.founded_read binding.body.shape result
      rw [Dialect.decode]
      cases read : binding.body.shape.read result with
      | ok raw => exact absurd (accepts.mp ⟨raw, Dialect.decode_eq_ok_iff.mpr read⟩) other
      | error problems =>
        cases problems with
        | nil => exact absurd read founded
        | cons problem problems => exact ⟨problem, problems, rfl⟩
    obtain ⟨problem, problems, refused⟩ := refused
    refine ⟨problem, problems, refused, ?_⟩
    intro client server state call params profile named encoded answered
    simp only [Client.raw, Profile.binding, profile, named, bound, encoded, Attempt.andThen,
      Traced.andThen_outcome, answered, Except.bind, Traced.ofExcept_outcome, refused,
      Except.mapError]

/-- Release 28 reads what it is told about the interface, whatever the order; a flag in place of the
path of the log is refused. -/
theorem Client.raw_of_result_rpcInfo :
    let told : Json := .obj [("logpath", .str "debug.log"), ("active_commands", .arr [])]
    let mistold : Json := .obj [("logpath", .bool true), ("active_commands", .arr [])]
    let transport : Transport := ⟨"http://127.0.0.1:8332", none, .null, .null, true⟩
    let client : Client := ⟨Release.profile .v28, transport, true⟩
    let body := "\x7b\"result\":\x7b\"logpath\":true,\"active_commands\":[]\x7d,\"id\":1\x7d"
    Shape.rpcInfoV19.Holds told
        (.record "RpcInfoV19" [("active_commands", .list []), ("logpath", .text "debug.log")]) ∧
      ¬ Shape.rpcInfoV19.Conforms mistold ∧
      ∃ problem problems,
        (client.raw (fun _ => .http 200 (Text.encode body.toList)) Transport.initial
            ⟨.getRpcInfo, []⟩).traced.outcome =
          .error (.client (.call ⟨"getrpcinfo", .decode (.mismatch (problem :: problems))⟩)) := by
  intro told mistold transport client body
  have bound : Release.v28.profile.binding? .getRpcInfo = some (Binding.entry .getRpcInfo .v19 none
      (Binding.noArguments "getrpcinfo") .rpcInfoV19 .rpcInfo) := rfl
  obtain ⟨_, holds, _⟩ := raw_of_result bound told
  obtain ⟨accepts, _, refuses⟩ := raw_of_result bound mistold
  have other : ¬ Shape.rpcInfoV19.Conforms mistold := by
    intro conforms
    obtain ⟨raw, decoded⟩ := accepts.mpr conforms
    contradiction
  obtain ⟨problem, problems, _, ends⟩ := refuses other
  refine ⟨holds _ rfl, other, problem, problems, ?_⟩
  refine ends client _ Transport.initial ⟨.getRpcInfo, []⟩ [] rfl rfl rfl ?_
  have read : Json.read (Text.decodeLossy (Text.encode body.toList)) =
      .ok (.obj [("result", mistold), ("id", .int 1)]) := by
    rw [Text.decodeLossy_encode]
    cbv
  have reaches := Transport.reaches_local none .null .null true
  have writable : Argument.Writable [] := rfl
  simp only [invoke, Attempt.andThen, afterRequest_outcome, Traced.andThen_outcome,
    observeFailure_outcome]
  rw [Transport.send_of_target _ _ writable rfl reaches.target, Transport.interpret_http _ reaches,
    Transport.accept, if_neg (by decide), Response.parse, read]
  rfl

end NodeClient
