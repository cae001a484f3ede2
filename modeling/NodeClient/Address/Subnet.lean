import NodeClient.Address.Ip

/-! # Subnets

A subnet is an address with an optional mask after a slash. The mask is a count of leading bits or,
for IPv4, a dotted mask whose set bits all lead or all trail. Bits of the address beyond the mask
are allowed.
-/

namespace NodeClient.Address

/-- Whether a mask is a count of leading bits of an address with that many bits. -/
def isBitCount (bits : Nat) (mask : List Char) : Bool :=
  match asciiNumber? mask with
  | some count => mask.length ≤ 4300 && count ≤ bits
  | none => false

/-- Whether the set bits of a 32-bit number are the leading ones. -/
def isLeadingMask (mask : Nat) : Bool :=
  (List.range 33).any fun trailing => mask == (Nat.pow 2 (32 - trailing) - 1) * Nat.pow 2 trailing

/-- Whether a mask is a dotted IPv4 mask, as it is or with its bits inverted. -/
def isDottedMask (mask : List Char) : Bool :=
  match ipv4? mask with
  | some bits => isLeadingMask bits || isLeadingMask (Nat.pow 2 32 - 1 - bits)
  | none => false

/-- Whether a text is an IPv4 or IPv6 subnet. -/
def isSubnet (text : List Char) : Bool :=
  match Text.splitAt '/' text with
  | [address] => (ipv4? address).isSome || isIpv6 address
  | [address, mask] =>
    ((ipv4? address).isSome && (isBitCount 32 mask || isDottedMask mask)) ||
      (isIpv6 address && isBitCount 128 mask)
  | _ => false

end NodeClient.Address
