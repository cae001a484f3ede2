import NodeClient.Projection.Basic

/-! # Projecting nodes and bans

Manually added nodes, known addresses of other nodes, and bans.
-/

namespace NodeClient

namespace AddedNode

def method : String := "getaddednodeinfo"

def addressOf (raw : Raw) : Projected AddedNodeAddress := do
  return {
    address := ← Projected.address method "addresses.address" (← raw.textAt "address")
    connected := ← raw.textAt "connected" }

def ofRaw (raw : Raw) : Projected AddedNode := do
  return {
    addedNode := ← raw.textAt "addednode"
    connected := ← raw.boolAt "connected"
    addresses := ← Projected.each addressOf (← raw.itemsAt "addresses") }

end AddedNode

namespace NodeAddress

def method : String := "getnodeaddresses"

def ofRaw (raw : Raw) : Projected NodeAddress := do
  let port ← raw.intAt "port"
  if 0 ≤ port ∧ port ≤ SocketAddress.lastPort then
    return {
      time := ← Projected.instant method "time" (.int (← raw.intAt "time"))
      services := ← raw.intAt "services"
      address := ← raw.textAt "address"
      port := port
      network := raw.reportedText "network" }
  else Projected.refuseNumber method "port" (.int port) (.portOutOfRange port)

end NodeAddress

namespace BannedSubnet

def method : String := "listbanned"

def ofRaw (raw : Raw) : Projected BannedSubnet := do
  return {
    address := ← Projected.subnet method "address" (← raw.textAt "address")
    bannedUntil := ← Projected.instant method "banned_until" (.int (← raw.intAt "banned_until"))
    banCreated := ← Projected.instant method "ban_created" (.int (← raw.intAt "ban_created"))
    banReason := raw.reportedText "ban_reason"
    banDuration := raw.reportedInt "ban_duration"
    timeRemaining := raw.reportedInt "time_remaining" }

end BannedSubnet

end NodeClient
