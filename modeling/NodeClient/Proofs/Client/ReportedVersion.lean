import NodeClient.Proofs.Client.Outcome
import NodeClient.Proofs.Frame.RoundTrip
import NodeClient.Proofs.Projection.Availability
import NodeClient.Proofs.Release
import NodeClient.Proofs.Shape.Answers
import NodeClient.Proofs.Text.Utf8

/-! # The version that a server reports

The network information of every release holds the version of the server as an integer. A client checks
it against the release that it is bound to, and fails unless it is one of the ten thousand versions from
the first one of that release on.
-/

namespace NodeClient

variable {release : Release} {binding : Binding Dialect}

/-- Network information that was read holds the version that was sent. -/
theorem Binding.exists_version (bound : release.profile.binding? .getNetworkInfo = some binding)
    {result : Json} {raw : Raw} (decoded : binding.body.decode result = .ok raw) :
    ∃ members version, result = .obj members ∧
      Value.member? "version" members = some (.int version) ∧
      raw.intAt "version" = .ok version := by
  obtain ⟨name, shape⟩ := shape_networkInfo bound
  rw [Dialect.decode_eq_ok_iff, shape] at decoded
  obtain ⟨members, rows, rfl, rfl, read⟩ := Shape.read_record_eq_ok_iff.mp decoded
  obtain ⟨version, sent, told, _⟩ := (Raw.shares_self read).int "version" rfl
  exact ⟨members, version, rfl, sent, told⟩

namespace Client

variable {client : Client} {server : Server} {state : TransportState}

/-- The version that a client learns is that of the network information it gets. -/
theorem serverVersion_outcome (bound : release.profile.binding? .getNetworkInfo = some binding)
    (profile : client.profile = release.profile) {result : Json} {raw : Raw} {version : Int}
    (decoded : binding.body.decode result = .ok raw) (told : raw.intAt "version" = .ok version)
    (answered : (client.invoke server state "getnetworkinfo" []).traced.outcome = .ok result) :
    (client.serverVersion server state).traced.outcome = .ok version := by
  have signature := Binding.signature_eq_signatureFor bound
  have encoded : binding.body.signature.encode [] = .ok [] := by rw [signature]; rfl
  have method : binding.body.method = "getnetworkinfo" := by rw [Dialect.method, signature]; rfl
  simp only [serverVersion, Client.raw, Profile.binding, profile, bound, encoded, method,
    Attempt.andThen, Traced.andThen_outcome, answered, Except.bind, Traced.ofExcept_outcome, decoded,
    Except.mapError, told]

/-- A client finds another release than its own behind the version that it learns, or nothing to
object to. -/
theorem checkServerVersion_outcome (profile : client.profile = release.profile) {version : Int}
    (learned : (client.serverVersion server state).traced.outcome = .ok version) :
    (client.checkServerVersion server state).traced.outcome =
      if release.matchesServerVersion version then .ok ()
      else .error (.client (.unexpectedVersion release.serverVersion version)) := by
  have named : client.release = release := by rw [Client.release, profile]; rfl
  simp only [checkServerVersion, Attempt.andThen, Traced.andThen_outcome, learned, Except.bind, named]
  split <;> rfl

/-- A result that is written as the response to the request of a new client reaches the client. -/
theorem invoke_outcome_of_written {url : Url} (reaches : client.transport.Reaches url) {result : Json}
    (readable : result.Readable) (method : String) {params : List Argument}
    (writable : Argument.Writable params) :
    (client.invoke
        (fun _ => .http 200 (Text.encode
          (Value.write (.obj (Json.resultMembers result (.int 1)))).toList))
        Transport.initial method params).traced.outcome = .ok result := by
  have idReadable : (Value.int 1 : Json).Readable := by
    rw [Value.Readable]
    decide
  have parsed := Response.parse_write readable idReadable rfl
  simp only [invoke, Attempt.andThen, afterRequest_outcome, Traced.andThen_outcome,
    observeFailure_outcome]
  rw [Transport.send_of_target _ _ writable rfl reaches.target, Transport.interpret_http _ reaches,
    Transport.accept, if_neg (by decide), Text.decodeLossy_encode, parsed]
  rfl

end Client

/-- All ways of telling a release agree. The texts of a version and the integer that a server reports for
it lead to one release, the only one that the integer belongs to, or to none. A client that is bound to a
release and gets network information that it can read objects to the version in it exactly when this is
below the first version of the release, or not below the first one of the next. -/
theorem release_told_alike :
    (∀ major minor patch : Nat, 0 < major → minor < 100 → patch < 100 →
      (∃ release, Release.ofServerVersion (Release.reported major minor patch) = .ok release ∧
        (∀ text, Release.Spells major minor patch text →
          Release.parse (.text text) = .ok release) ∧
        ∀ other : Release,
          other.matchesServerVersion (Release.reported major minor patch) = true ↔ other = release) ∨
      (∃ unknown, Release.ofServerVersion (Release.reported major minor patch) = .error unknown) ∧
        (∀ text, Release.Spells major minor patch text →
          ∃ unknown, Release.parse (.text text) = .error unknown) ∧
        ∀ other : Release,
          other.matchesServerVersion (Release.reported major minor patch) = false) ∧
    ∀ release : Release, ∃ binding, release.profile.binding? .getNetworkInfo = some binding ∧
      ∀ (result : Json) (raw : Raw), binding.body.decode result = .ok raw →
        ∃ members version, result = .obj members ∧
          Value.member? "version" members = some (.int version) ∧
          ∀ (client : Client) (server : Server) (state : TransportState),
            client.profile = release.profile →
            (client.invoke server state "getnetworkinfo" []).traced.outcome = .ok result →
            (client.checkServerVersion server state).traced.outcome =
              if version < release.serverVersion ∨ release.serverVersion + 10000 ≤ version then
                .error (.client (.unexpectedVersion release.serverVersion version))
              else .ok () := by
  refine ⟨fun major minor patch => Release.named_alike, fun release => ?_⟩
  obtain ⟨binding, bound⟩ : ∃ binding, release.profile.binding? .getNetworkInfo = some binding := by
    cases release <;> exact ⟨_, rfl⟩
  refine ⟨binding, bound, fun result raw decoded => ?_⟩
  obtain ⟨members, version, sent, found, told⟩ := Binding.exists_version bound decoded
  refine ⟨members, version, sent, found, fun client server state profile answered => ?_⟩
  have learned := Client.serverVersion_outcome bound profile decoded told answered
  rw [Client.checkServerVersion_outcome profile learned]
  by_cases matching : release.matchesServerVersion version = true
  · have within := Release.matchesServerVersion_iff.mp matching
    rw [if_pos matching, if_neg (by omega)]
  · have beyond := Release.matchesServerVersion_iff.not.mp matching
    rw [if_neg matching, if_pos (by omega)]

/-- Version 0.17.1 is of release 17, under either way of counting. A client of that release objects to a
server of release 18. -/
theorem release_told_alike_v17 :
    let result : Json := .obj
      [("version", .int 180000), ("subversion", .str "/Node:0.18.0/"),
        ("protocolversion", .int 70015), ("localservices", .str "000000000000040d"),
        ("localrelay", .bool true), ("timeoffset", .int 0), ("connections", .int 0),
        ("networkactive", .bool true), ("networks", .arr []), ("relayfee", .int 0),
        ("incrementalfee", .int 0), ("localaddresses", .arr []), ("warnings", .str "")]
    let body := Value.write (.obj (Json.resultMembers result (.int 1)))
    let transport : Transport := ⟨"http://127.0.0.1:8332", none, .null, .null, true⟩
    let client : Client := ⟨Release.profile .v17, transport, true⟩
    Release.parse (.text " V0.17.1\n") = .ok .v17 ∧ Release.parse (.text "17.1.0") = .ok .v17 ∧
      (∀ release : Release, release.matchesServerVersion 170100 = true ↔ release = .v17) ∧
      (client.checkServerVersion (fun _ => .http 200 (Text.encode body.toList))
          Transport.initial).traced.outcome =
        .error (.client (.unexpectedVersion 170000 180000)) := by
  intro result body transport client
  obtain ⟨names, reports⟩ := release_told_alike
  have named : Release.ofServerVersion (Release.reported 17 1 0) = .ok .v17 := by rfl
  rcases names 17 1 0 (by decide) (by decide) (by decide) with
    ⟨release, told, spelled, only⟩ | ⟨⟨unknown, untold⟩, _⟩
  · obtain rfl := Except.ok.inj (named.symm.trans told)
    have early : Release.Spells 17 1 0 " V0.17.1\n" :=
      @Release.Spells.early 17 1 0 " " "V" "\n" (List.all_eq_true.mp rfl) (by decide)
        (List.all_eq_true.mp rfl)
    have dotted : Release.Spells 17 1 0 "17.1.0" :=
      @Release.Spells.dotted 17 1 0 "" "" "" (List.all_eq_true.mp rfl) (by decide)
        (List.all_eq_true.mp rfl)
    refine ⟨spelled _ early, spelled _ dotted, only, ?_⟩
    obtain ⟨binding, bound, told⟩ := reports .v17
    cases bound
    obtain ⟨raw, decoded⟩ : ∃ raw,
        (Shape.networkInfoV17.read result).mapError DecodeCause.mismatch = .ok raw := ⟨_, rfl⟩
    obtain ⟨members, version, sent, found, checked⟩ := told result raw decoded
    obtain rfl := Value.obj.inj sent
    obtain rfl := Value.int.inj (Option.some.inj found)
    have reaches := Transport.reaches_local none .null .null true
    have readable : result.Readable := by
      refine ⟨by decide, ?_⟩
      simp only [Value.MembersReadable, Value.Readable, Value.ItemsReadable]
      decide
    exact checked client _ Transport.initial rfl
      (@Client.invoke_outcome_of_written client _ reaches _ readable _ [] rfl)
  · rw [named] at untold
    contradiction

end NodeClient
