import NodeClient.Projection.Basic

/-! # Projecting the state of the network

Network information, traffic totals and the state of the server's interface.
-/

namespace NodeClient

def NetworkReachability.ofRaw (raw : Raw) : Projected NetworkReachability := do
  return {
    name := ← raw.textAt "name"
    limited := ← raw.boolAt "limited"
    reachable := ← raw.boolAt "reachable"
    proxy := ← raw.textAt "proxy"
    proxyRandomizeCredentials := ← raw.boolAt "proxy_randomize_credentials" }

def LocalAddress.ofRaw (raw : Raw) : Projected LocalAddress := do
  return {
    address := ← raw.textAt "address"
    port := ← raw.intAt "port"
    score := ← raw.intAt "score" }

namespace NetworkInfo

def method : String := "getnetworkinfo"

/-- The warnings: a text that is not empty is one warning. -/
def warningsOf (raw : Raw) : Projected (List String) :=
  match raw.member? "warnings" with
  | some (.text text) => .ok (if text.isEmpty then [] else [text])
  | some (.list items) => .ok (Raw.textsOf items)
  | _ => raw.undeclared "warnings"

def ofRaw (raw : Raw) : Projected NetworkInfo := do
  let warnings ← warningsOf raw
  return {
    version := ← raw.intAt "version"
    subversion := ← raw.textAt "subversion"
    protocolVersion := ← raw.intAt "protocolversion"
    localServices := ← raw.textAt "localservices"
    localServicesNames := raw.reportedTexts "localservicesnames"
    localRelay := ← raw.boolAt "localrelay"
    timeOffset := ← raw.intAt "timeoffset"
    connections := ← raw.intAt "connections"
    connectionsIn := raw.reportedInt "connections_in"
    connectionsOut := raw.reportedInt "connections_out"
    networkActive := ← raw.boolAt "networkactive"
    networks := ← Projected.each NetworkReachability.ofRaw (← raw.itemsAt "networks")
    relayFee := ← Projected.satoshis method "relayfee" (.float (← raw.numberAt "relayfee"))
    incrementalFee :=
      ← Projected.satoshis method "incrementalfee" (.float (← raw.numberAt "incrementalfee"))
    localAddresses := ← Projected.each LocalAddress.ofRaw (← raw.itemsAt "localaddresses")
    warnings := warnings }

end NetworkInfo

def UploadTarget.ofRaw (raw : Raw) : Projected UploadTarget := do
  return {
    timeframe := ← raw.intAt "timeframe"
    target := ← raw.intAt "target"
    targetReached := ← raw.boolAt "target_reached"
    serveHistoricalBlocks := ← raw.boolAt "serve_historical_blocks"
    bytesLeftInCycle := ← raw.intAt "bytes_left_in_cycle"
    timeLeftInCycle := ← raw.intAt "time_left_in_cycle" }

namespace NetTotals

def method : String := "getnettotals"

/-- The instant of a count of milliseconds, by way of the floating-point number of seconds. -/
def timeOf (milliseconds : Int) : Projected Instant :=
  match Binary64.ofRatio? milliseconds 1000 with
  | none => .error .ratioOutOfRange
  | some seconds => Projected.instant method "timemillis" (.float seconds)

def ofRaw (raw : Raw) : Projected NetTotals := do
  let target ← raw.recordAt "uploadtarget"
  return {
    totalBytesRecv := ← raw.intAt "totalbytesrecv"
    totalBytesSent := ← raw.intAt "totalbytessent"
    time := ← timeOf (← raw.intAt "timemillis")
    uploadTarget := ← UploadTarget.ofRaw target }

end NetTotals

def ActiveCommand.ofRaw (raw : Raw) : Projected ActiveCommand := do
  return {
    method := ← raw.textAt "method"
    duration := ← raw.intAt "duration" }

/-- The state of the server's interface. -/
def RpcInfo.ofRaw (raw : Raw) : Projected RpcInfo := do
  return {
    activeCommands := ← Projected.each ActiveCommand.ofRaw (← raw.itemsAt "active_commands")
    logPath := raw.reportedText "logpath" }

end NodeClient
