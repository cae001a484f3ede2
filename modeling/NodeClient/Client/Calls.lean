import NodeClient.Client.Basic

/-! # Calls by name

One function for each operation, with its arguments in order. An argument that is null is not set.
A call may also be made by its name with named arguments, which are checked against its parameters:
no other arguments may be there, and those that are required must be.
-/

namespace NodeClient

/-- The names of the parameters of a call. -/
structure Parameters where
  required : List String
  optional : List String
  deriving Repr, DecidableEq

namespace Call

def getAddedNodeInfo (node : Argument) : Call := ⟨.getAddedNodeInfo, [("node", node)]⟩

def getNetTotals : Call := ⟨.getNetTotals, []⟩

def getNetworkInfo : Call := ⟨.getNetworkInfo, []⟩

def getPeerInfo : Call := ⟨.getPeerInfo, []⟩

def getConnectionCount : Call := ⟨.getConnectionCount, []⟩

def ping : Call := ⟨.ping, []⟩

def setNetworkActive (state : Argument) : Call := ⟨.setNetworkActive, [("state", state)]⟩

def addNode (node command v2transport : Argument) : Call :=
  ⟨.addNode, [("node", node), ("command", command), ("v2transport", v2transport)]⟩

def clearBanned : Call := ⟨.clearBanned, []⟩

def setBan (subnet command bantime absolute : Argument) : Call :=
  ⟨.setBan,
    [("subnet", subnet), ("command", command), ("bantime", bantime), ("absolute", absolute)]⟩

def listBanned : Call := ⟨.listBanned, []⟩

def disconnectNode (address id : Argument) : Call :=
  ⟨.disconnectNode, [("address", address), ("nodeid", id)]⟩

def getNodeAddresses (count network : Argument) : Call :=
  ⟨.getNodeAddresses, [("count", count), ("network", network)]⟩

def getRpcInfo : Call := ⟨.getRpcInfo, []⟩

/-- The call of a name, if it is that of an operation. -/
def named? (arg : String → Argument) : String → Option Call
  | "get_added_node_info" => some (getAddedNodeInfo (arg "node"))
  | "get_net_totals" => some getNetTotals
  | "get_network_info" => some getNetworkInfo
  | "get_peer_info" => some getPeerInfo
  | "get_connection_count" => some getConnectionCount
  | "ping" => some ping
  | "set_network_active" => some (setNetworkActive (arg "state"))
  | "add_node" => some (addNode (arg "node") (arg "command") (arg "v2transport"))
  | "clear_banned" => some clearBanned
  | "set_ban" => some (setBan (arg "subnet") (arg "command") (arg "bantime") (arg "absolute"))
  | "list_banned" => some listBanned
  | "disconnect_node" => some (disconnectNode (arg "address") (arg "node_id"))
  | "get_node_addresses" => some (getNodeAddresses (arg "count") (arg "network"))
  | "get_rpc_info" => some getRpcInfo
  | _ => none

def parameters : List (String × Parameters) :=
  [("get_added_node_info", ⟨[], ["node"]⟩),
    ("get_net_totals", ⟨[], []⟩),
    ("get_network_info", ⟨[], []⟩),
    ("server_version", ⟨[], []⟩),
    ("check_expected_server_version", ⟨[], []⟩),
    ("get_peer_info", ⟨[], []⟩),
    ("get_connection_count", ⟨[], []⟩),
    ("ping", ⟨[], []⟩),
    ("set_network_active", ⟨["state"], []⟩),
    ("add_node", ⟨["node", "command"], ["v2transport"]⟩),
    ("clear_banned", ⟨[], []⟩),
    ("set_ban", ⟨["subnet", "command"], ["bantime", "absolute"]⟩),
    ("list_banned", ⟨[], []⟩),
    ("disconnect_node", ⟨[], ["address", "node_id"]⟩),
    ("get_node_addresses", ⟨[], ["count", "network"]⟩),
    ("get_rpc_info", ⟨[], []⟩)]

/-- The name by which every call has its client. -/
def clientName : String := "self"

/-- What is wrong with the first argument that a call with some parameters does not take. -/
def surplus? (call : String) (parameters : Parameters) (names : List String) :
    Option ArgumentFault :=
  (names.find? fun name => !(parameters.required ++ parameters.optional).contains name).map
    fun name => if name = clientName then .repeated call name else .unexpected call name

/-- The name of the call that takes an operation with arguments of any names. -/
def generalName : String := "call"

/-- Checks the names of the arguments of a call. That of an operation as such takes any but those
that are set already. -/
def checkNames (call : String) (names : List String) : Except ArgumentFault Unit :=
  match parameters.lookup call with
  | some parameters =>
    match surplus? call parameters names with
    | some fault => .error fault
    | none =>
      let missing := parameters.required.filter fun name => !names.contains name
      if missing.isEmpty then .ok () else .error (.missing call missing)
  | none =>
    match names.find? fun name => name = clientName || name = "operation" with
    | some name => if call = generalName then .error (.repeated call name) else .ok ()
    | none => .ok ()

end Call

/-- Runs an operation with arguments of any names. Those of the client and of the operation, which the
call has its own values for, are refused. -/
def Client.callWith (client : Client) (server : Server) (state : TransportState)
    (operation : Operation) (arguments : List (String × Argument)) : Attempt Canonical :=
  match Call.checkNames Call.generalName (arguments.map Prod.fst) with
  | .error fault => Attempt.silent state (Traced.fail (.escape (.arguments fault)))
  | .ok () => client.call server state ⟨operation, arguments⟩

end NodeClient
