import NodeClient.Projection.Basic

/-! # Projecting peers

Whether a connection was made by hand is known for every release: connection types replaced the flag
that earlier releases send.
-/

namespace NodeClient.PeerInfo

def method : String := "getpeerinfo"

/-- Whether the connection was made by hand. -/
def manualOf (raw : Raw) : Projected Bool :=
  match raw.reportedText "connection_type" with
  | some connectionType => .ok (connectionType == "manual")
  | none =>
    match raw.reportedBool "addnode" with
    | some added => .ok added
    | none => .error (.refused ⟨method, .missing "manual"⟩)

def ofRaw (raw : Raw) : Projected PeerInfo := do
  return {
    id := ← raw.intAt "id"
    address := ← Projected.address method "addr" (← raw.textAt "addr")
    addressBind := ← Projected.addressOrNull method "addrbind" (← raw.textOrNullAt "addrbind")
    addressLocal := ← Projected.addressOrNull method "addrlocal" (← raw.textOrNullAt "addrlocal")
    network := raw.reportedText "network"
    mappedAs := raw.reportedInt "mapped_as"
    services := ← raw.textAt "services"
    servicesNames := raw.reportedTexts "servicesnames"
    relayTxes := ← raw.boolAt "relaytxes"
    lastSend := ← raw.intAt "lastsend"
    lastRecv := ← raw.intAt "lastrecv"
    lastTransaction := raw.reportedInt "last_transaction"
    lastBlock := raw.reportedInt "last_block"
    bytesSent := ← raw.intAt "bytessent"
    bytesRecv := ← raw.intAt "bytesrecv"
    connectionTime := ← Projected.instant method "conntime" (.int (← raw.intAt "conntime"))
    timeOffset := ← raw.intAt "timeoffset"
    pingTime := ← raw.numberOrNullAt "pingtime"
    minPing := ← raw.numberOrNullAt "minping"
    pingWait := ← raw.numberOrNullAt "pingwait"
    version := ← raw.intAt "version"
    subversion := ← raw.textAt "subver"
    inbound := ← raw.boolAt "inbound"
    manual := ← manualOf raw
    connectionType := raw.reportedText "connection_type"
    startingHeight := raw.reportedInt "startingheight"
    banScore := raw.reportedInt "banscore"
    whitelisted := raw.reportedBool "whitelisted"
    permissions := raw.reportedTexts "permissions"
    syncedHeaders := ← raw.intAt "synced_headers"
    syncedBlocks := ← raw.intAt "synced_blocks"
    inflight := ← raw.intsAt "inflight"
    highBandwidthTo := raw.reportedBool "bip152_hb_to"
    highBandwidthFrom := raw.reportedBool "bip152_hb_from"
    addrProcessed := raw.reportedInt "addr_processed"
    addrRateLimited := raw.reportedInt "addr_rate_limited"
    transportProtocolType := raw.reportedText "transport_protocol_type"
    sessionId := raw.reportedText "session_id"
    bytesSentPerMessage := ← raw.countsAt "bytessent_per_msg"
    bytesRecvPerMessage := ← raw.countsAt "bytesrecv_per_msg" }

end NodeClient.PeerInfo
