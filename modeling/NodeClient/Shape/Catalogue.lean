import NodeClient.Shape.Basic

/-! # Shapes of the network results

A shape is named for the first release that returns it. Members that later releases add to a shape
come after those it had, except that peers report the newest groups of members first.
-/

namespace NodeClient.Shape

/-- A member that must be present. -/
def required (name : String) (kind : Shape) : Field := ⟨name, .required, kind⟩

/-- A member that may be absent or null. -/
def optional (name : String) (kind : Shape) : Field := ⟨name, .orNull, kind⟩

def networkEntry : Shape :=
  .record "NetworkEntry"
    [required "name" .text, required "limited" .bool, required "reachable" .bool,
      required "proxy" .text, required "proxy_randomize_credentials" .bool]

def localAddressEntry : Shape :=
  .record "LocalAddressEntry"
    [required "address" .text, required "port" .int, required "score" .int]

/-- Members of the network information of every release, with what it warns with. -/
def networkInfoFields (warnings : Shape) : List Field :=
  [required "version" .int, required "subversion" .text, required "protocolversion" .int,
    required "localservices" .text, required "localrelay" .bool, required "timeoffset" .int,
    required "connections" .int, required "networkactive" .bool,
    required "networks" (.list networkEntry), required "relayfee" .number,
    required "incrementalfee" .number, required "localaddresses" (.list localAddressEntry),
    required "warnings" warnings]

def serviceNameFields : List Field := [required "localservicesnames" (.list .text)]

def directionFields : List Field := [required "connections_in" .int, required "connections_out" .int]

/-- Network information of releases 17 and 18. -/
def networkInfoV17 : Shape := .record "NetworkInfoV17" (networkInfoFields .text)

/-- Network information of releases 19 and 20. -/
def networkInfoV19 : Shape :=
  .record "NetworkInfoV19" (networkInfoFields .text ++ serviceNameFields)

/-- Network information of releases 21 to 27. -/
def networkInfoV21 : Shape :=
  .record "NetworkInfoV21" (networkInfoFields .text ++ serviceNameFields ++ directionFields)

/-- Network information from release 28 on. -/
def networkInfoV28 : Shape :=
  .record "NetworkInfoV28" (networkInfoFields (.list .text) ++ serviceNameFields ++ directionFields)

/-- Members that every release reports for a peer. -/
def peerCoreFields : List Field :=
  [required "id" .int, required "addr" .text, optional "addrbind" .text, optional "addrlocal" .text,
    required "services" .text, required "relaytxes" .bool, required "lastsend" .int,
    required "lastrecv" .int, required "bytessent" .int, required "bytesrecv" .int,
    required "conntime" .int, required "timeoffset" .int, optional "pingtime" .number,
    optional "minping" .number, optional "pingwait" .number, required "version" .int,
    required "subver" .text, required "inbound" .bool, required "synced_headers" .int,
    required "synced_blocks" .int, required "inflight" (.list .int),
    required "bytessent_per_msg" .counters, required "bytesrecv_per_msg" .counters]

/-- Members of a peer that early releases report. -/
def peerEarlyFields : List Field :=
  [required "addnode" .bool, required "banscore" .int, required "whitelisted" .bool,
    required "startingheight" .int]

def peerPermissionFields : List Field :=
  [required "servicesnames" (.list .text), required "permissions" (.list .text)]

/-- The autonomous system of a peer, which only a node with a map of them reports. -/
def peerMappingFields : List Field := [optional "mapped_as" .int]

/-- Members that came with connection types. -/
def peerConnectionFields : List Field :=
  [required "network" .text, required "connection_type" .text, required "last_transaction" .int,
    required "last_block" .int]

/-- Members of a peer since release 21. -/
def peerModernFields : List Field :=
  peerCoreFields ++ peerPermissionFields ++ peerMappingFields ++ peerConnectionFields

/-- Compact block relay and address counters of a peer. -/
def compactRelayFields : List Field :=
  [required "bip152_hb_to" .bool, required "bip152_hb_from" .bool, required "addr_processed" .int,
    required "addr_rate_limited" .int]

/-- Transport of a peer's connection. -/
def transportFields : List Field :=
  [required "transport_protocol_type" .text, required "session_id" .text]

/-- The height a peer announced when it connected. -/
def startingHeightFields : List Field := [required "startingheight" .int]

/-- Members common to the peers of every release. -/
def peerCore : Shape := .record "PeerCore" peerCoreFields

/-- A peer of releases 17 and 18. -/
def peerInfoV17 : Shape := .record "PeerInfoV17" (peerCoreFields ++ peerEarlyFields)

/-- A peer of release 19. -/
def peerInfoV19 : Shape :=
  .record "PeerInfoV19" (peerCoreFields ++ peerEarlyFields ++ peerPermissionFields)

/-- A peer of release 20. -/
def peerInfoV20 : Shape :=
  .record "PeerInfoV20"
    (peerCoreFields ++ peerEarlyFields ++ peerPermissionFields ++ peerMappingFields)

/-- Members common to the peers of every release since 21. -/
def peerModern : Shape := .record "PeerModern" peerModernFields

/-- Compact block relay and address counters on their own. -/
def compactRelay : Shape := .record "CompactRelayFields" compactRelayFields

/-- The transport of a connection on its own. -/
def transportEntry : Shape := .record "TransportFields" transportFields

/-- A peer of release 21. -/
def peerInfoV21 : Shape := .record "PeerInfoV21" (peerModernFields ++ startingHeightFields)

/-- A peer of releases 22 to 25. -/
def peerInfoV22 : Shape :=
  .record "PeerInfoV22" (compactRelayFields ++ peerModernFields ++ startingHeightFields)

/-- A peer of releases 26 and 27. -/
def peerInfoV26 : Shape :=
  .record "PeerInfoV26"
    (transportFields ++ compactRelayFields ++ peerModernFields ++ startingHeightFields)

/-- A peer from release 28 on. -/
def peerInfoV28 : Shape :=
  .record "PeerInfoV28" (transportFields ++ compactRelayFields ++ peerModernFields)

def addedNodeAddressEntry : Shape :=
  .record "AddedNodeAddressEntry" [required "address" .text, required "connected" .text]

def addedNodeV17 : Shape :=
  .record "AddedNodeV17"
    [required "addednode" .text, required "connected" .bool,
      ⟨"addresses", .orEmpty, .list addedNodeAddressEntry⟩]

def uploadTargetEntry : Shape :=
  .record "UploadTargetEntry"
    [required "timeframe" .int, required "target" .int, required "target_reached" .bool,
      required "serve_historical_blocks" .bool, required "bytes_left_in_cycle" .int,
      required "time_left_in_cycle" .int]

def netTotalsV17 : Shape :=
  .record "NetTotalsV17"
    [required "totalbytesrecv" .int, required "totalbytessent" .int, required "timemillis" .int,
      required "uploadtarget" uploadTargetEntry]

/-- Members that every release reports for a ban. -/
def banFields : List Field :=
  [required "address" .text, required "banned_until" .int, required "ban_created" .int]

/-- A ban of releases 17 to 20. -/
def bannedV17 : Shape := .record "BannedV17" (banFields ++ [required "ban_reason" .text])

/-- A ban of release 21. -/
def bannedV21 : Shape := .record "BannedV21" banFields

/-- A ban from release 22 on. -/
def bannedV22 : Shape :=
  .record "BannedV22" (banFields ++ [required "ban_duration" .int, required "time_remaining" .int])

/-- Members that every release reports for a known address. -/
def nodeAddressFields : List Field :=
  [required "time" .int, required "services" .int, required "address" .text, required "port" .int]

/-- A known address of releases 18 to 21. -/
def nodeAddressV18 : Shape := .record "NodeAddressV18" nodeAddressFields

/-- A known address from release 22 on. -/
def nodeAddressV22 : Shape :=
  .record "NodeAddressV22" (nodeAddressFields ++ [required "network" .text])

def activeCommandEntry : Shape :=
  .record "ActiveCommandEntry" [required "method" .text, required "duration" .int]

/-- Members that every release reports about the server's interface. -/
def rpcInfoFields : List Field := [required "active_commands" (.list activeCommandEntry)]

/-- Information on the server's interface of release 18. -/
def rpcInfoV18 : Shape := .record "RpcInfoV18" rpcInfoFields

/-- Information on the server's interface from release 19 on. -/
def rpcInfoV19 : Shape := .record "RpcInfoV19" (rpcInfoFields ++ [required "logpath" .text])

def catalogue : List Shape :=
  [networkEntry, localAddressEntry, networkInfoV17, networkInfoV19, networkInfoV21, networkInfoV28,
    peerCore, peerInfoV17, peerInfoV19, peerInfoV20, peerModern, compactRelay, transportEntry,
    peerInfoV21, peerInfoV22, peerInfoV26, peerInfoV28, addedNodeAddressEntry, addedNodeV17,
    uploadTargetEntry, netTotalsV17, bannedV17, bannedV21, bannedV22, nodeAddressV18,
    nodeAddressV22, activeCommandEntry, rpcInfoV18, rpcInfoV19, .record "RawShape" []]

def ofName? (name : String) : Option Shape := catalogue.find? fun shape => shape.label == name

end NodeClient.Shape
