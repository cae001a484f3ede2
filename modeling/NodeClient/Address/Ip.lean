import NodeClient.Text.Digit
import NodeClient.Text.Basic

/-! # IP addresses

An address of version 4 is four decimal octets with points between them. An octet has at most three
ASCII digits, no needless leading zero, and a value of at most 255.

An address of version 6 is eight groups of up to four hexadecimal digits with colons between them. The
last two groups may be written as an address of version 4, and one run of at least one zero group may be
left out between two colons. A zone may follow a percent sign; it is not empty and holds no further one.
-/

namespace NodeClient.Address

/-- The ASCII decimal number that a text spells, if it holds nothing but digits. -/
def asciiNumber? (text : List Char) : Option Nat :=
  if text.isEmpty then none else (text.mapM Text.asciiDigit?).map (Text.ofDigits 10)

def octet? (text : List Char) : Option Nat :=
  if 3 < text.length ∨ (1 < text.length ∧ text.head? = some '0') then none
  else (asciiNumber? text).filter (· ≤ 255)

/-- The 32-bit number of an IPv4 address. -/
def ipv4? (text : List Char) : Option Nat :=
  match Text.splitAt '.' text with
  | [a, b, c, d] => do
    let a ← octet? a
    let b ← octet? b
    let c ← octet? c
    let d ← octet? d
    return Text.ofDigits 256 [a, b, c, d]
  | _ => none

/-- The value of a group of hexadecimal digits. -/
def group? (text : List Char) : Option Nat :=
  if text.isEmpty ∨ 4 < text.length then none
  else (text.mapM Text.hexDigit?).map (Text.ofDigits 16)

/-- The parts between colons, with an IPv4 address at the end as two groups. -/
def groupTexts? (text : List Char) : Option (List (List Char)) :=
  let parts := Text.splitAt ':' text
  if parts.length < 3 then none
  else
    match parts.getLast? with
    | some last =>
      if last.contains '.' then
        (ipv4? last).map fun address =>
          parts.dropLast ++ [Nat.toDigits 16 (address / 65536), Nat.toDigits 16 (address % 65536)]
      else some parts
    | none => none

/-- The places of the empty parts that are neither first nor last. -/
def gaps (parts : List (List Char)) : List Nat :=
  (List.range parts.length).filter fun index =>
    1 ≤ index && index + 1 < parts.length && (parts[index]?).any List.isEmpty

/-- The groups on one side of the gap: nothing when the text starts or ends with the gap. -/
def sideGroups? (side : List (List Char)) : Option (List Nat) :=
  match side with
  | [[]] => some []
  | _ => side.mapM group?

/-- The eight groups of an address without a zone. -/
def groups? (text : List Char) : Option (List Nat) := do
  let parts ← groupTexts? text
  if 9 < parts.length then none
  else
    match gaps parts with
    | [] =>
      if parts.length = 8 then parts.mapM group? else none
    | [gap] =>
      let high ← sideGroups? (parts.take gap)
      let low ← sideGroups? (parts.drop (gap + 1))
      if 8 ≤ high.length + low.length then none
      else some (high ++ List.replicate (8 - (high.length + low.length)) 0 ++ low)
    | _ => none

/-- The text in front of a zone, unless the zone is malformed. -/
def withoutZone? (text : List Char) : Option (List Char) :=
  match Text.cutFirst? ['%'] text with
  | none => some text
  | some (address, zone) => if zone.isEmpty ∨ zone.contains '%' then none else some address

/-- Whether a text is an IPv6 address, with or without a zone. -/
def isIpv6 (text : List Char) : Bool :=
  !text.contains '/' && ((withoutZone? text).bind groups?).isSome

end NodeClient.Address
