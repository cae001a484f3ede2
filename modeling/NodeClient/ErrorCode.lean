import NodeClient.Json.Equality

/-! # Error codes of a server

A server names the failure of a call by an integer. The codes below −32000 are those of the
JSON-RPC 2.0 standard; the others are the server's own, for the network operations.
-/

namespace NodeClient

/-- A code that the network operations are known to fail with. -/
inductive ErrorCode where
  | parseError
  | invalidRequest
  | methodNotFound
  | invalidParams
  | internalError
  | miscError
  | typeError
  | invalidParameter
  | clientNodeAlreadyAdded
  | clientNodeNotAdded
  | clientNodeNotConnected
  | clientInvalidIpOrSubnet
  | clientP2pDisabled
  deriving Repr, DecidableEq

namespace ErrorCode

def all : List ErrorCode :=
  [.parseError, .invalidRequest, .methodNotFound, .invalidParams, .internalError, .miscError,
    .typeError, .invalidParameter, .clientNodeAlreadyAdded, .clientNodeNotAdded,
    .clientNodeNotConnected, .clientInvalidIpOrSubnet, .clientP2pDisabled]

def value : ErrorCode → Int
  | .parseError => -32700
  | .invalidRequest => -32600
  | .methodNotFound => -32601
  | .invalidParams => -32602
  | .internalError => -32603
  | .miscError => -1
  | .typeError => -3
  | .invalidParameter => -8
  | .clientNodeAlreadyAdded => -23
  | .clientNodeNotAdded => -24
  | .clientNodeNotConnected => -29
  | .clientInvalidIpOrSubnet => -30
  | .clientP2pDisabled => -31

def name : ErrorCode → String
  | .parseError => "PARSE_ERROR"
  | .invalidRequest => "INVALID_REQUEST"
  | .methodNotFound => "METHOD_NOT_FOUND"
  | .invalidParams => "INVALID_PARAMS"
  | .internalError => "INTERNAL_ERROR"
  | .miscError => "MISC_ERROR"
  | .typeError => "TYPE_ERROR"
  | .invalidParameter => "INVALID_PARAMETER"
  | .clientNodeAlreadyAdded => "CLIENT_NODE_ALREADY_ADDED"
  | .clientNodeNotAdded => "CLIENT_NODE_NOT_ADDED"
  | .clientNodeNotConnected => "CLIENT_NODE_NOT_CONNECTED"
  | .clientInvalidIpOrSubnet => "CLIENT_INVALID_IP_OR_SUBNET"
  | .clientP2pDisabled => "CLIENT_P2P_DISABLED"

/-- The known code that a value equals as a number. -/
def ofValue? {κ : Type} [Constant κ] (value : Value κ) : Option ErrorCode :=
  all.find? fun code => Value.equals value (.int code.value)

end ErrorCode

end NodeClient
