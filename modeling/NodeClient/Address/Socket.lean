import NodeClient.Address.Subnet
import NodeClient.Number.Integer
import NodeClient.Text.Quoted

/-! # Socket addresses

A host and a port are written with a colon between them; a host that holds a colon stands in
brackets and must be an IPv6 address. A port is a run of digit characters. Among these are some that
no number is read from, so a port may also fail to be a number at all.
-/

namespace NodeClient

/-- A host and a port. -/
structure SocketAddress where
  host : String
  port : Int
  deriving Repr, DecidableEq

/-- Why a text is no socket address. -/
inductive SocketFault where
  | unparsable
  | host
  | port
  | notNumber (port : String) (fault : Number.IntegerFault)
  deriving Repr, DecidableEq

namespace SocketAddress

def lastPort : Nat := 65535

def text (address : SocketAddress) : String :=
  if address.host.toList.contains ':' then s!"[{address.host}]:{address.port}"
  else s!"{address.host}:{address.port}"

/-- The host of a text and the text of its port. -/
def split (text : List Char) : Except SocketFault (List Char × List Char) :=
  match text with
  | '[' :: rest =>
    match Text.cutFirst? [']', ':'] rest with
    | none => .error .unparsable
    | some (host, port) => if Address.isIpv6 host then .ok (host, port) else .error .host
  | _ =>
    match Text.cutLast? ':' text with
    | none => .error .unparsable
    | some (host, port) =>
      if host.isEmpty || host.contains ':' then .error .unparsable else .ok (host, port)

def portOf (text : List Char) : Except SocketFault Int :=
  if text.isEmpty || !text.all Text.isDigit then .error .port
  else
    match Number.readInteger text with
    | .error fault => .error (.notNumber (String.ofList text) fault)
    | .ok port => if 0 ≤ port ∧ port ≤ lastPort then .ok port else .error .port

def parse (text : String) : Except SocketFault SocketAddress :=
  match split text.toList with
  | .error fault => .error fault
  | .ok (host, port) =>
    match portOf port with
    | .error fault => .error fault
    | .ok port => .ok ⟨String.ofList host, port⟩

end SocketAddress

namespace Address

/-- The endings of host names that belong to overlay networks. -/
def overlayEndings : List (List Char) := [".onion".toList, ".i2p".toList]

/-- Whether a text is accepted as a banned subnet: a subnet, or a host of an overlay network. -/
def isBannable (text : List Char) : Bool :=
  (overlayEndings.any fun ending => ending.isSuffixOf text) || isSubnet text

end Address

end NodeClient
