/-! # Logical operations

The operations a client offers, whatever the release of the server it speaks to.
-/

namespace NodeClient

/-- An operation of the client, independent of the server's release. -/
inductive Operation where
  | getAddedNodeInfo
  | getNetTotals
  | getNetworkInfo
  | getPeerInfo
  | getConnectionCount
  | ping
  | setNetworkActive
  | addNode
  | clearBanned
  | setBan
  | listBanned
  | disconnectNode
  | getNodeAddresses
  | getRpcInfo
  deriving Repr, DecidableEq

namespace Operation

def all : List Operation :=
  [.getAddedNodeInfo, .getNetTotals, .getNetworkInfo, .getPeerInfo, .getConnectionCount, .ping,
    .setNetworkActive, .addNode, .clearBanned, .setBan, .listBanned, .disconnectNode,
    .getNodeAddresses, .getRpcInfo]

def name : Operation → String
  | .getAddedNodeInfo => "get_added_node_info"
  | .getNetTotals => "get_net_totals"
  | .getNetworkInfo => "get_network_info"
  | .getPeerInfo => "get_peer_info"
  | .getConnectionCount => "get_connection_count"
  | .ping => "ping"
  | .setNetworkActive => "set_network_active"
  | .addNode => "add_node"
  | .clearBanned => "clear_banned"
  | .setBan => "set_ban"
  | .listBanned => "list_banned"
  | .disconnectNode => "disconnect_node"
  | .getNodeAddresses => "get_node_addresses"
  | .getRpcInfo => "get_rpc_info"

def ofName? (text : String) : Option Operation := all.find? fun operation => operation.name == text

end Operation

end NodeClient
