import NodeClient.Address.Socket
import NodeClient.Instant
import NodeClient.Shape.Basic

/-! # Results independent of the release

These are the results of the operations, whatever the release of the server that answered. A member
that is optional here is one that some release does not report: `none` means that the server never
sends it, which is not the same as an empty list or an empty text that it did send.
-/

namespace NodeClient

structure NetworkReachability where
  name : String
  limited : Bool
  reachable : Bool
  proxy : String
  proxyRandomizeCredentials : Bool
  deriving Repr, DecidableEq

/-- An address that the node believes it is reachable on. -/
structure LocalAddress where
  address : String
  port : Int
  score : Int
  deriving Repr, DecidableEq

/-- Network state of the node; fees are in satoshis for a thousand virtual bytes. -/
structure NetworkInfo where
  version : Int
  subversion : String
  protocolVersion : Int
  localServices : String
  localServicesNames : Option (List String)
  localRelay : Bool
  timeOffset : Int
  connections : Int
  connectionsIn : Option Int
  connectionsOut : Option Int
  networkActive : Bool
  networks : List NetworkReachability
  relayFee : Int
  incrementalFee : Int
  localAddresses : List LocalAddress
  warnings : List String
  deriving Repr, DecidableEq

/-- A connected peer. Counters of bytes are ordered by the name of the message. -/
structure PeerInfo where
  id : Int
  address : SocketAddress
  addressBind : Option SocketAddress
  addressLocal : Option SocketAddress
  network : Option String
  mappedAs : Option Int
  services : String
  servicesNames : Option (List String)
  relayTxes : Bool
  lastSend : Int
  lastRecv : Int
  lastTransaction : Option Int
  lastBlock : Option Int
  bytesSent : Int
  bytesRecv : Int
  connectionTime : Instant
  timeOffset : Int
  pingTime : Option Binary64
  minPing : Option Binary64
  pingWait : Option Binary64
  version : Int
  subversion : String
  inbound : Bool
  manual : Bool
  connectionType : Option String
  startingHeight : Option Int
  banScore : Option Int
  whitelisted : Option Bool
  permissions : Option (List String)
  syncedHeaders : Int
  syncedBlocks : Int
  inflight : List Int
  highBandwidthTo : Option Bool
  highBandwidthFrom : Option Bool
  addrProcessed : Option Int
  addrRateLimited : Option Int
  transportProtocolType : Option String
  sessionId : Option String
  bytesSentPerMessage : List (String × Int)
  bytesRecvPerMessage : List (String × Int)
  deriving Repr, DecidableEq

/-- A resolved address of an added node. -/
structure AddedNodeAddress where
  address : SocketAddress
  connected : String
  deriving Repr, DecidableEq

/-- A manually added node. -/
structure AddedNode where
  addedNode : String
  connected : Bool
  addresses : List AddedNodeAddress
  deriving Repr, DecidableEq

/-- State of the limit on uploads. -/
structure UploadTarget where
  timeframe : Int
  target : Int
  targetReached : Bool
  serveHistoricalBlocks : Bool
  bytesLeftInCycle : Int
  timeLeftInCycle : Int
  deriving Repr, DecidableEq

/-- Traffic totals. -/
structure NetTotals where
  totalBytesRecv : Int
  totalBytesSent : Int
  time : Instant
  uploadTarget : UploadTarget
  deriving Repr, DecidableEq

/-- A ban. -/
structure BannedSubnet where
  address : String
  bannedUntil : Instant
  banCreated : Instant
  banReason : Option String
  banDuration : Option Int
  timeRemaining : Option Int
  deriving Repr, DecidableEq

/-- A known address of another node. -/
structure NodeAddress where
  time : Instant
  services : Int
  address : String
  port : Int
  network : Option String
  deriving Repr, DecidableEq

/-- A command that the server is running. -/
structure ActiveCommand where
  method : String
  duration : Int
  deriving Repr, DecidableEq

/-- State of the server's interface. -/
structure RpcInfo where
  activeCommands : List ActiveCommand
  logPath : Option String
  deriving Repr, DecidableEq

/-- The result of an operation. -/
inductive Canonical where
  | asSent (value : Raw)
  | networkInfo (info : NetworkInfo)
  | peers (peers : List PeerInfo)
  | addedNodes (nodes : List AddedNode)
  | netTotals (totals : NetTotals)
  | banned (bans : List BannedSubnet)
  | nodeAddresses (addresses : List NodeAddress)
  | rpcInfo (info : RpcInfo)
  deriving Repr

end NodeClient
