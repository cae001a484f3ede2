import NodeClient.Binding.Basic
import NodeClient.Encoding
import NodeClient.Projection.Network
import NodeClient.Projection.Node
import NodeClient.Projection.Peer
import NodeClient.Shape.Catalogue

/-! # The table of operations

For each operation and range of releases, the table states the signature of the wire method, the
shape of its result and the projection of that result. Supporting a new release means adding entries
here.
-/

namespace NodeClient

/-- How a result is projected. -/
inductive Projection where
  | asSent
  | networkInfo
  | peers
  | addedNodes
  | netTotals
  | banned
  | nodeAddresses
  | rpcInfo
  deriving Repr, DecidableEq

namespace Projection

/-- Projects every item of a list result. A record in place of a list counts as the list of its
members, each a pair that declares no members of its own. -/
def eachItem {β : Type} (project : Raw → Projected β) (raw : Raw) : Projected (List β) :=
  match raw with
  | .list items => Projected.each project items
  | .record _ members => Projected.each (fun _ => project (.record "tuple" [])) members
  | _ => raw.undeclared "items"

def apply : Projection → Raw → Projected Canonical
  | .asSent, raw => .ok (.asSent raw)
  | .networkInfo, raw => (NetworkInfo.ofRaw raw).map .networkInfo
  | .peers, raw => (eachItem PeerInfo.ofRaw raw).map .peers
  | .addedNodes, raw => (eachItem AddedNode.ofRaw raw).map .addedNodes
  | .netTotals, raw => (NetTotals.ofRaw raw).map .netTotals
  | .banned, raw => (eachItem BannedSubnet.ofRaw raw).map .banned
  | .nodeAddresses, raw => (eachItem NodeAddress.ofRaw raw).map .nodeAddresses
  | .rpcInfo, raw => (RpcInfo.ofRaw raw).map .rpcInfo

end Projection

/-- How an operation is spoken: the signature of the wire method, the shape of its result and the
projection of that result. -/
structure Dialect where
  signature : Signature
  shape : Shape
  projection : Projection

/-- A result that does not have the expected shape; at least one problem was found. -/
inductive DecodeCause where
  | mismatch (problems : List Mismatch)
  | stated (text : String)
  deriving Repr, DecidableEq

/-- The wording of a shape error: the count of problems and the first of them. -/
def DecodeCause.text : DecodeCause → String
  | .mismatch problems =>
    let first :=
      match problems with
      | [] => ""
      | problem :: _ =>
        let place := if problem.location.isEmpty then "<root>" else problem.location
        s!"{place}: {problem.expected.message}"
    s!"result does not match the expected shape: {problems.length} error(s): {first}"
  | .stated text => text

namespace Dialect

def method (dialect : Dialect) : String := dialect.signature.method

/-- Reads a result by the shape of the dialect. -/
def decode (dialect : Dialect) (result : Json) : Except DecodeCause Raw :=
  (dialect.shape.read result).mapError .mismatch

end Dialect

namespace Binding

/-- A slot that must be set. -/
def required (name : String) : Slot := ⟨name, true, none⟩

/-- A slot that may be left out, with the default that the server states. -/
def optional (name : String) (default : Option Argument) : Slot := ⟨name, false, default⟩

/-- The signature of a method without arguments. -/
def noArguments (method : String) : Signature := { method := method }

/-- Arguments of the operation that tells about added nodes. -/
def addedNodeSignature : Signature :=
  { method := "getaddednodeinfo", slots := [optional "node" none] }

/-- Arguments of the operation that turns the network on and off. -/
def networkActiveSignature : Signature :=
  { method := "setnetworkactive", slots := [required "state"] }

/-- Arguments of the operation that adds a node, up to release 25. -/
def addNodeSignature : Signature :=
  { method := "addnode", slots := [required "node", required "command"] }

/-- Arguments of the operation that adds a node, from release 26 on. The default for the transport
follows the settings of the node, so none is stated. -/
def addNodeTransportSignature : Signature :=
  { method := "addnode"
    slots := [required "node", required "command", optional "v2transport" none] }

/-- Arguments of the operation that changes a ban. -/
def setBanSignature : Signature :=
  { method := "setban"
    slots :=
      [required "subnet", required "command", optional "bantime" (some (.int 0)),
        optional "absolute" (some (.bool false))] }

/-- Arguments of the operation that disconnects a node, by its address or by its id. By id, an empty
address is sent first. -/
def disconnectNodeSignature : Signature :=
  { method := "disconnectnode"
    slots := [optional "address" (some (.str "")), optional "nodeid" none]
    exactlyOneOf := ["address", "nodeid"] }

/-- Arguments of the operation that lists known addresses, up to release 21. -/
def nodeAddressesSignature : Signature :=
  { method := "getnodeaddresses", slots := [optional "count" (some (.int 1))] }

/-- Arguments of the operation that lists known addresses, from release 22 on. -/
def nodeAddressesNetworkSignature : Signature :=
  { method := "getnodeaddresses"
    slots := [optional "count" (some (.int 1)), optional "network" none] }

def entry (operation : Operation) (since : Release) (until? : Option Release)
    (signature : Signature) (shape : Shape) (projection : Projection) : Binding Dialect :=
  ⟨operation, since, until?, ⟨signature, shape, projection⟩⟩

def table : List (Binding Dialect) :=
  [entry .getAddedNodeInfo .v17 none addedNodeSignature (.list .addedNodeV17) .addedNodes,
    entry .getNetTotals .v17 none (noArguments "getnettotals") .netTotalsV17 .netTotals,
    entry .getNetworkInfo .v17 (some .v18) (noArguments "getnetworkinfo") .networkInfoV17
      .networkInfo,
    entry .getNetworkInfo .v19 (some .v20) (noArguments "getnetworkinfo") .networkInfoV19
      .networkInfo,
    entry .getNetworkInfo .v21 (some .v27) (noArguments "getnetworkinfo") .networkInfoV21
      .networkInfo,
    entry .getNetworkInfo .v28 none (noArguments "getnetworkinfo") .networkInfoV28 .networkInfo,
    entry .getPeerInfo .v17 (some .v18) (noArguments "getpeerinfo") (.list .peerInfoV17) .peers,
    entry .getPeerInfo .v19 (some .v19) (noArguments "getpeerinfo") (.list .peerInfoV19) .peers,
    entry .getPeerInfo .v20 (some .v20) (noArguments "getpeerinfo") (.list .peerInfoV20) .peers,
    entry .getPeerInfo .v21 (some .v21) (noArguments "getpeerinfo") (.list .peerInfoV21) .peers,
    entry .getPeerInfo .v22 (some .v25) (noArguments "getpeerinfo") (.list .peerInfoV22) .peers,
    entry .getPeerInfo .v26 (some .v27) (noArguments "getpeerinfo") (.list .peerInfoV26) .peers,
    entry .getPeerInfo .v28 none (noArguments "getpeerinfo") (.list .peerInfoV28) .peers,
    entry .getConnectionCount .v17 none (noArguments "getconnectioncount") .int .asSent,
    entry .ping .v17 none (noArguments "ping") .null .asSent,
    entry .setNetworkActive .v17 none networkActiveSignature .bool .asSent,
    entry .addNode .v17 (some .v25) addNodeSignature .null .asSent,
    entry .addNode .v26 none addNodeTransportSignature .null .asSent,
    entry .clearBanned .v17 none (noArguments "clearbanned") .null .asSent,
    entry .setBan .v17 none setBanSignature .null .asSent,
    entry .listBanned .v17 (some .v20) (noArguments "listbanned") (.list .bannedV17) .banned,
    entry .listBanned .v21 (some .v21) (noArguments "listbanned") (.list .bannedV21) .banned,
    entry .listBanned .v22 none (noArguments "listbanned") (.list .bannedV22) .banned,
    entry .disconnectNode .v17 none disconnectNodeSignature .null .asSent,
    entry .getNodeAddresses .v18 (some .v21) nodeAddressesSignature (.list .nodeAddressV18)
      .nodeAddresses,
    entry .getNodeAddresses .v22 none nodeAddressesNetworkSignature (.list .nodeAddressV22)
      .nodeAddresses,
    entry .getRpcInfo .v18 (some .v18) (noArguments "getrpcinfo") .rpcInfoV18 .rpcInfo,
    entry .getRpcInfo .v19 none (noArguments "getrpcinfo") .rpcInfoV19 .rpcInfo]

end Binding

def Release.profile (release : Release) : Profile Dialect :=
  Profile.ofBindings release Binding.table

end NodeClient
