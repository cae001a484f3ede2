import NodeClient.Binding.Table
import Mathlib.Tactic.FinCases

/-! # The table, release by release

The binding that a profile picks is one of the table that speaks its operation to its release. A
binding covers a range of releases; here the signature, the projection and the shape of an operation
are given for one release. The shapes are put together from the members that each release reports.
-/

namespace NodeClient

namespace Shape

def networkFieldsOf (release : Release) : List Field :=
  networkInfoFields (if .v28 ≤ release then .list .text else .text) ++
    (if .v19 ≤ release then serviceNameFields else []) ++
    (if .v21 ≤ release then directionFields else [])

def peerFieldsOf (release : Release) : List Field :=
  (if .v26 ≤ release then transportFields else []) ++
    (if .v22 ≤ release then compactRelayFields else []) ++
    peerCoreFields ++
    (if release ≤ .v20 then peerEarlyFields else []) ++
    (if .v19 ≤ release then peerPermissionFields else []) ++
    (if .v20 ≤ release then peerMappingFields else []) ++
    (if .v21 ≤ release then peerConnectionFields else []) ++
    (if .v21 ≤ release ∧ release ≤ .v27 then startingHeightFields else [])

def banFieldsOf (release : Release) : List Field :=
  banFields ++ (if release ≤ .v20 then [required "ban_reason" .text] else []) ++
    (if .v22 ≤ release then [required "ban_duration" .int, required "time_remaining" .int] else [])

def nodeAddressFieldsOf (release : Release) : List Field :=
  nodeAddressFields ++ if .v22 ≤ release then [required "network" .text] else []

/-- Members of the information on the server's interface of a release. -/
def rpcInfoFieldsOf (release : Release) : List Field :=
  rpcInfoFields ++ if .v19 ≤ release then [required "logpath" .text] else []

end Shape

namespace Binding

/-- The binding that is picked is in the list, is for the operation and covers the release. -/
theorem of_binding? {α : Type} {release : Release} {bindings : List (Binding α)}
    {operation : Operation} {binding : Binding α}
    (bound : (Profile.ofBindings release bindings).binding? operation = some binding) :
    binding ∈ bindings ∧ binding.operation = operation ∧ binding.covers release = true := by
  rw [Profile.binding?, Profile.ofBindings] at bound
  have named := List.find?_some bound
  have member := List.mem_reverse.mp (List.mem_of_find?_eq_some bound)
  obtain ⟨listed, covers⟩ := List.mem_filter.mp member
  exact ⟨listed, eq_of_beq named, covers⟩

/-- The signature of each operation in each release that has it. -/
def signatureFor (release : Release) : Operation → Signature
  | .getAddedNodeInfo => addedNodeSignature
  | .getNetTotals => noArguments "getnettotals"
  | .getNetworkInfo => noArguments "getnetworkinfo"
  | .getPeerInfo => noArguments "getpeerinfo"
  | .getConnectionCount => noArguments "getconnectioncount"
  | .ping => noArguments "ping"
  | .setNetworkActive => networkActiveSignature
  | .addNode => if release ≤ .v25 then addNodeSignature else addNodeTransportSignature
  | .clearBanned => noArguments "clearbanned"
  | .setBan => setBanSignature
  | .listBanned => noArguments "listbanned"
  | .disconnectNode => disconnectNodeSignature
  | .getNodeAddresses =>
    if release ≤ .v21 then nodeAddressesSignature else nodeAddressesNetworkSignature
  | .getRpcInfo => noArguments "getrpcinfo"

/-- The table states these signatures. -/
theorem signature_eq_signatureFor {operation : Operation} {release : Release}
    {binding : Binding Dialect} (bound : release.profile.binding? operation = some binding) :
    binding.body.signature = signatureFor release operation := by
  obtain ⟨listed, rfl, covers⟩ := of_binding? bound
  fin_cases listed
  -- Only the signatures that grew need to know which releases the binding covers.
  all_goals first | rfl | (cases release <;> first | rfl | contradiction)

def projectionFor : Operation → Projection
  | .getNetworkInfo => .networkInfo
  | .getPeerInfo => .peers
  | .getAddedNodeInfo => .addedNodes
  | .getNetTotals => .netTotals
  | .listBanned => .banned
  | .getNodeAddresses => .nodeAddresses
  | .getRpcInfo => .rpcInfo
  | _ => .asSent

variable {release : Release} {binding : Binding Dialect}

/-- The table states these projections, whatever the release. -/
theorem projection_eq_projectionFor {operation : Operation}
    (bound : release.profile.binding? operation = some binding) :
    binding.body.projection = projectionFor operation := by
  obtain ⟨listed, rfl, _⟩ := of_binding? bound
  fin_cases listed
  all_goals rfl

theorem shape_networkInfo (bound : release.profile.binding? .getNetworkInfo = some binding) :
    ∃ name, binding.body.shape = .record name (Shape.networkFieldsOf release) := by
  cases release <;> cases bound <;> exact ⟨_, rfl⟩

theorem shape_peers (bound : release.profile.binding? .getPeerInfo = some binding) :
    ∃ name, binding.body.shape = .list (.record name (Shape.peerFieldsOf release)) := by
  cases release <;> cases bound <;> exact ⟨_, rfl⟩

theorem shape_banned (bound : release.profile.binding? .listBanned = some binding) :
    ∃ name, binding.body.shape = .list (.record name (Shape.banFieldsOf release)) := by
  cases release <;> cases bound <;> exact ⟨_, rfl⟩

theorem shape_nodeAddresses (bound : release.profile.binding? .getNodeAddresses = some binding) :
    ∃ name, binding.body.shape = .list (.record name (Shape.nodeAddressFieldsOf release)) := by
  cases release <;> cases bound <;> exact ⟨_, rfl⟩

theorem shape_rpcInfo (bound : release.profile.binding? .getRpcInfo = some binding) :
    ∃ name, binding.body.shape = .record name (Shape.rpcInfoFieldsOf release) := by
  cases release <;> cases bound <;> exact ⟨_, rfl⟩

end Binding

end NodeClient
