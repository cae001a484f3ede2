import NodeClient.Client.Session
import NodeClient.Proofs.Client.Outcome

/-! # Clients that differ in a password

Two clients with one user and different passwords make the same requests but for the authorization.
As long as they get the same replies, everything else about their attempts is the same: the log
records, the answers and the errors, and the state that is left.
-/

namespace NodeClient

/-- Two transports differ at most in the password. -/
structure Transport.SameButPassword (left right : Transport) : Prop where
  address : left.address = right.address
  user : left.credentials?.map Credentials.user = right.credentials?.map Credentials.user
  timeout : left.timeout = right.timeout
  readTimeout : left.readTimeout = right.readTimeout
  owned : left.owned = right.owned

/-- Two clients differ at most in the password. -/
structure Client.SameButPassword (left right : Client) : Prop where
  profile : left.profile = right.profile
  transport : left.transport.SameButPassword right.transport
  ownsTransport : left.ownsTransport = right.ownsTransport

/-- What is sent, with nothing in the authorization. -/
def Sent.redacted (sent : Sent) : Sent :=
  { sent with authorization? := sent.authorization?.map fun _ => "" }

/-- A server that takes no notice of the authorization. -/
def Server.Blind (server : Server) : Prop := ∀ sent, server sent.redacted = server sent

theorem Server.Blind.map_eq {server : Server} (blind : server.Blind) {left right : List Sent}
    (same : left.map Sent.redacted = right.map Sent.redacted) :
    left.map server = right.map server := by
  have through : server ∘ Sent.redacted = server := funext blind
  rw [← through, ← List.map_map, same, List.map_map]

namespace Attempt

variable {α β : Type}

/-- An attempt with nothing in the authorization of what was sent. -/
def redacted (attempt : Attempt α) : Attempt α :=
  { attempt with sent := attempt.sent.map Sent.redacted }

/-- Two attempts send the same but for the authorization and leave the same state, and they have the
same records and the same outcome, should they get the same replies. -/
structure Alike (server other : Server) (left right : Attempt α) : Prop where
  sent : left.sent.map Sent.redacted = right.sent.map Sent.redacted
  state : left.state = right.state
  traced : left.sent.map server = right.sent.map other → left.traced = right.traced

namespace Alike

variable {server other : Server} {left right : Attempt α}

theorem refl (state : TransportState) (traced : Traced Failure α) :
    Alike server other (silent state traced) (silent state traced) := ⟨rfl, rfl, fun _ => rfl⟩

theorem andThen (alike : Alike server other left right) (next : α → Traced Failure β) :
    Alike server other (left.andThen next) (right.andThen next) where
  sent := alike.sent
  state := alike.state
  traced replies := congrArg (fun traced => traced.andThen next) (alike.traced replies)

theorem after (alike : Alike server other left right) (record : LogRecord) :
    Alike server other (left.after record) (right.after record) where
  sent := alike.sent
  state := alike.state
  traced replies := by rw [Attempt.after, Attempt.after, alike.traced replies]

theorem afterRequest (alike : Alike server other left right) (method : String)
    (params : List Argument) :
    Alike server other (Client.afterRequest method params left)
      (Client.afterRequest method params right) := by
  rw [Client.afterRequest, Client.afterRequest]
  split_ifs
  · exact alike
  · exact alike.after _

theorem observeFailure (alike : Alike server other left right) (method : String) :
    Alike server other { left with traced := Client.observeFailure method left.traced }
      { right with traced := Client.observeFailure method right.traced } where
  sent := alike.sent
  state := alike.state
  traced replies := congrArg (Client.observeFailure method) (alike.traced replies)

theorem redacted_eq (alike : Alike server other left right)
    (replies : left.sent.map server = right.sent.map other) : left.redacted = right.redacted := by
  rw [redacted, redacted, alike.sent, alike.state, alike.traced replies]

end Alike

end Attempt

namespace Transport.SameButPassword

variable {left right : Transport}

/-- Transports that differ in the password are shown alike. -/
theorem shown_eq (same : left.SameButPassword right) : left.shown = right.shown := by
  have present : left.credentials?.isSome = right.credentials?.isSome := by
    rw [← Option.isSome_map (f := Credentials.user), same.user, Option.isSome_map]
  unfold shown
  dsimp only
  rw [same.address, present]

theorem authorizationFor_eq (same : left.SameButPassword right) (url : Url) :
    (left.authorizationFor url).map (fun _ => "") = (right.authorizationFor url).map fun _ => "" := by
  have user := same.user
  rw [authorizationFor, authorizationFor]
  cases given : left.credentials? with
  | none =>
    rw [given] at user
    rw [Option.map_eq_none_iff.mp user.symm]
  | some first =>
    rw [given] at user
    obtain ⟨second, given', _⟩ := Option.map_eq_some_iff.mp user.symm
    rw [given']
    rfl

theorem posted_redacted (same : left.SameButPassword right) (state : TransportState)
    (method : String) (params : List Argument) (url : Url) :
    (left.posted state method params url).redacted =
      (right.posted state method params url).redacted := by
  simp only [Sent.redacted, posted, same.authorizationFor_eq, same.readTimeout]

/-- What a reply means does not depend on the password. -/
theorem interpret_eq (same : left.SameButPassword right) (url : Url) (method : String) (id : Nat)
    (reply : Reply) : left.interpret url method id reply = right.interpret url method id reply := by
  cases reply <;> simp only [interpret, same.address, same.timeout]

/-- Transports that differ in the password make exchanges that are alike. -/
theorem send_alike (same : left.SameButPassword right) (server other : Server)
    (state : TransportState) (method : String) (params : List Argument) :
    Attempt.Alike server other (left.send server state method params)
      (right.send other state method params) := by
  by_cases writable : Argument.Writable params
  swap
  · obtain ⟨fault, rest, first⟩ := Argument.exists_fault_of_not_writable writable
    rw [send_of_fault _ _ _ _ _ first, send_of_fault _ _ _ _ _ first]
    exact .refl _ _
  cases target : (Url.parse left.address).bind Url.target with
  | error fault =>
    have target' := target
    rw [same.address] at target'
    rw [send_of_no_target _ _ _ _ _ writable target, send_of_no_target _ _ _ _ _ writable target']
    exact .refl _ _
  | ok url =>
    have target' := target
    rw [same.address] at target'
    cases isOpen : state.closed with
    | true =>
      have faults : (nextRequest state method params).faults = [] := writable
      simp only [send, faults, target, target', isOpen, ↓reduceIte]
      exact .refl _ _
    | false =>
      rw [send_of_target _ _ writable isOpen target, send_of_target _ _ writable isOpen target']
      refine ⟨congrArg (fun sent => [sent]) (same.posted_redacted state method params url), rfl, ?_⟩
      intro replies
      have reply : server (left.posted state method params url) =
          other (right.posted state method params url) := (List.cons.inj replies).1
      rw [reply, same.interpret_eq]

end Transport.SameButPassword

/-- What a client does while it lives: it answers an inquiry, tells or checks the version of the
server, or closes. -/
inductive Action where
  | inquiry (inquiry : Inquiry)
  | serverVersion
  | checkServerVersion
  | close

/-- What an action reports. -/
inductive Report where
  | answer (answer : Answer)
  | version (number : Int)
  | done

/-- An action, and what the server does with the request for it. -/
structure Round where
  action : Action
  server : Server

namespace Client

def perform (client : Client) (server : Server) (state : TransportState) : Action → Attempt Report
  | .inquiry inquiry => (client.answer server state inquiry).andThen fun answer =>
    pure (.answer answer)
  | .serverVersion => (client.serverVersion server state).andThen fun number =>
    pure (.version number)
  | .checkServerVersion => (client.checkServerVersion server state).andThen fun _ => pure .done
  | .close => Attempt.silent (client.close state) (pure .done)

/-- The attempts of a client that performs actions one after another. -/
def performAll (client : Client) (state : TransportState) : List Round → List (Attempt Report)
  | [] => []
  | round :: rest =>
    let attempt := client.perform round.server state round.action
    attempt :: client.performAll attempt.state rest

/-- The replies that a client gets, round by round. -/
def replies (client : Client) (state : TransportState) : List Round → List (List Reply)
  | [] => []
  | round :: rest =>
    let attempt := client.perform round.server state round.action
    attempt.sent.map round.server :: client.replies attempt.state rest

namespace SameButPassword

variable {left right : Client} (same : left.SameButPassword right) (server other : Server)
  (state : TransportState)

include same

/-- Clients that differ in the password are shown alike. -/
theorem shown_eq : left.shown = right.shown := by
  unfold shown release
  rw [same.profile, same.transport.shown_eq]

theorem announcement_eq : left.announcement = right.announcement := by
  unfold announcement release
  rw [same.profile, same.transport.shown_eq]

theorem invoke_alike (method : String) (params : List Argument) :
    Attempt.Alike server other (left.invoke server state method params)
      (right.invoke other state method params) :=
  have sends := same.transport.send_alike server other state method params
  ((sends.observeFailure method).andThen _).afterRequest method params

theorem raw_alike (call : Call) :
    Attempt.Alike server other (left.raw server state call) (right.raw other state call) := by
  rw [raw, raw, ← same.profile]
  cases left.profile.binding call.operation with
  | error error => exact .refl _ _
  | ok binding =>
    dsimp only
    cases binding.body.signature.encode call.arguments with
    | error error => exact .refl _ _
    | ok params => exact (same.invoke_alike server other state _ params).andThen _

theorem answer_alike (inquiry : Inquiry) :
    Attempt.Alike server other (left.answer server state inquiry)
      (right.answer other state inquiry) := by
  cases inquiry with
  | invoke method params => exact (same.invoke_alike server other state method params).andThen _
  | call call =>
    have project : left.project call.operation = right.project call.operation := by
      funext raw
      rw [Client.project, Client.project, same.profile]
    refine Attempt.Alike.andThen ?_ _
    rw [callWith, callWith]
    cases Call.checkNames Call.generalName (call.arguments.map Prod.fst) with
    | error fault => exact .refl _ _
    | ok _ =>
      dsimp only
      rw [Client.call, Client.call, project]
      exact (same.raw_alike server other state call).andThen _

theorem serverVersion_alike :
    Attempt.Alike server other (left.serverVersion server state)
      (right.serverVersion other state) :=
  (same.raw_alike server other state _).andThen _

/-- Clients that differ in the password perform an action alike. -/
theorem perform_alike (action : Action) :
    Attempt.Alike server other (left.perform server state action)
      (right.perform other state action) := by
  cases action with
  | inquiry inquiry => exact (same.answer_alike server other state inquiry).andThen _
  | serverVersion => exact (same.serverVersion_alike server other state).andThen _
  | checkServerVersion =>
    rw [perform, perform, checkServerVersion, checkServerVersion, release, release, same.profile]
    exact ((same.serverVersion_alike server other state).andThen _).andThen _
  | close =>
    rw [perform, perform, close, close, Transport.close, Transport.close, same.ownsTransport,
      same.transport.owned]
    exact .refl _ _

/-- Clients that differ in the password do the same alike, as long as they get the same replies. -/
theorem performAll_redacted {rounds others : List Round} {state : TransportState}
    (actions : rounds.map Round.action = others.map Round.action)
    (replies : left.replies state rounds = right.replies state others) :
    (left.performAll state rounds).map Attempt.redacted =
      (right.performAll state others).map Attempt.redacted := by
  induction rounds generalizing others state with
  | nil =>
    rw [List.map_nil, eq_comm, List.map_eq_nil_iff] at actions
    rw [actions]
    rfl
  | cons round rest ih =>
    cases others with
    | nil => exact nomatch actions
    | cons round' rest' =>
      obtain ⟨action, actions⟩ := List.cons.inj actions
      obtain ⟨reply, replies⟩ := List.cons.inj replies
      rw [← action] at reply replies
      have alike := same.perform_alike round.server round'.server state round.action
      -- The state is the same whatever the replies, so both go on from it.
      rw [← alike.state] at replies
      rw [performAll, performAll, List.map_cons, List.map_cons, ← action, alike.redacted_eq reply,
        ← alike.state, ih actions replies]

/-- Clients that differ in the password get the same replies from servers that take no notice of the
authorization. -/
theorem replies_of_blind {rounds : List Round} {state : TransportState}
    (blind : ∀ round ∈ rounds, round.server.Blind) :
    left.replies state rounds = right.replies state rounds := by
  induction rounds generalizing state with
  | nil => rfl
  | cons round rest ih =>
    obtain ⟨first, others⟩ := List.forall_mem_cons.mp blind
    have alike := same.perform_alike round.server round.server state round.action
    rw [replies, replies, first.map_eq alike.sent, alike.state, ih others]

end SameButPassword

end Client

end NodeClient
