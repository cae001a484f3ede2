/-! # Text as bytes

UTF-8 is read by a small machine: it either stands between two characters or is inside one, and
then knows how many bytes are missing, in which range the next one must lie, and what was read. A
character that breaks off is reported with all its bytes; a lenient reading puts U+FFFD in its place
and goes on with the byte that broke it.
-/

namespace NodeClient.Text

/-- What is wrong with bytes that are not UTF-8. -/
inductive Utf8Problem where
  | start
  | continuation
  | truncated
  deriving Repr, DecidableEq

def Utf8Problem.text : Utf8Problem → String
  | .start => "invalid start byte"
  | .continuation => "invalid continuation byte"
  | .truncated => "unexpected end of data"

/-- The place of bytes that are not UTF-8, with the first of them. -/
structure Utf8Fault where
  problem : Utf8Problem
  position : Nat
  width : Nat
  first : Nat
  deriving Repr, DecidableEq

/-- A character of which some bytes are missing. -/
structure PartialChar where
  missing : Nat
  low : Nat
  high : Nat
  value : Nat
  width : Nat
  first : Nat
  deriving Repr, DecidableEq

/-- What a first byte leads to. -/
inductive FirstByte where
  | whole (c : Char)
  | partially (char : PartialChar)
  | invalid
  deriving Repr

/-- Reads the first byte of a character. The range of the second byte excludes overlong forms,
halves of pairs and code points beyond the last one. -/
def firstByte (byte : UInt8) : FirstByte :=
  let value := byte.toNat
  if value < 0x80 then .whole (Char.ofNat value)
  else if value < 0xC2 then .invalid
  else if value < 0xE0 then .partially ⟨1, 0x80, 0xBF, value - 0xC0, 1, value⟩
  else if value < 0xF0 then
    let low := if value = 0xE0 then 0xA0 else 0x80
    let high := if value = 0xED then 0x9F else 0xBF
    .partially ⟨2, low, high, value - 0xE0, 1, value⟩
  else if value < 0xF5 then
    let low := if value = 0xF0 then 0x90 else 0x80
    let high := if value = 0xF4 then 0x8F else 0xBF
    .partially ⟨3, low, high, value - 0xF0, 1, value⟩
  else .invalid

/-- A partial character after a byte, unless the byte is out of range. -/
def PartialChar.extend? (char : PartialChar) (byte : UInt8) : Option PartialChar :=
  if char.low ≤ byte.toNat ∧ byte.toNat ≤ char.high then
    some ⟨char.missing - 1, 0x80, 0xBF, char.value * 64 + (byte.toNat - 0x80), char.width + 1,
      char.first⟩
  else none

/-- Puts a character in front of what was read. -/
def withChar {ε β : Type} (c : Char) : Except ε (List Char × β) → Except ε (List Char × β)
  | .ok (chars, state) => .ok (c :: chars, state)
  | .error error => .error error

/-- Reads bytes from a position on, with the part of a character that came before them, and leaves
the part of a character at the end. -/
def decodeFrom (position : Nat) (state : Option PartialChar) :
    List UInt8 → Except Utf8Fault (List Char × Option PartialChar)
  | [] => .ok ([], state)
  | byte :: rest =>
    match state with
    | none =>
      match firstByte byte with
      | .whole c => withChar c (decodeFrom (position + 1) none rest)
      | .partially char => decodeFrom (position + 1) (some char) rest
      | .invalid => .error ⟨.start, position, 1, byte.toNat⟩
    | some char =>
      match char.extend? byte with
      | none => .error ⟨.continuation, position - char.width, char.width, char.first⟩
      | some char =>
        if char.missing = 0 then
          withChar (Char.ofNat char.value) (decodeFrom (position + 1) none rest)
        else decodeFrom (position + 1) (some char) rest

def decode (bytes : List UInt8) : Except Utf8Fault (List Char) :=
  match decodeFrom 0 none bytes with
  | .error fault => .error fault
  | .ok (chars, none) => .ok chars
  | .ok (_, some char) => .error ⟨.truncated, bytes.length - char.width, char.width, char.first⟩

/-- The character that stands for bytes that are not UTF-8. -/
def replacement : Char := Char.ofNat 0xFFFD

/-- Reads bytes leniently, with the part of a character that came before them. -/
def decodeLossyFrom (state : Option PartialChar) : List UInt8 → List Char
  | [] => if state.isSome then [replacement] else []
  | byte :: rest =>
    match state.map fun char => char.extend? byte with
    | some (some char) =>
      if char.missing = 0 then Char.ofNat char.value :: decodeLossyFrom none rest
      else decodeLossyFrom (some char) rest
    | broken =>
      let before := if broken.isSome then [replacement] else []
      match firstByte byte with
      | .whole c => before ++ c :: decodeLossyFrom none rest
      | .partially char => before ++ decodeLossyFrom (some char) rest
      | .invalid => before ++ replacement :: decodeLossyFrom none rest

/-- The text of any bytes, with U+FFFD for each broken character. -/
def decodeLossy (bytes : List UInt8) : String := String.ofList (decodeLossyFrom none bytes)

def charBytes (c : Char) : List UInt8 :=
  let value := c.toNat
  if value < 0x80 then [UInt8.ofNat value]
  else if value < 0x800 then [UInt8.ofNat (0xC0 + value / 64), UInt8.ofNat (0x80 + value % 64)]
  else if value < 0x10000 then
    [UInt8.ofNat (0xE0 + value / 4096), UInt8.ofNat (0x80 + value / 64 % 64),
      UInt8.ofNat (0x80 + value % 64)]
  else
    [UInt8.ofNat (0xF0 + value / 262144), UInt8.ofNat (0x80 + value / 4096 % 64),
      UInt8.ofNat (0x80 + value / 64 % 64), UInt8.ofNat (0x80 + value % 64)]

def encode (text : List Char) : List UInt8 := text.flatMap charBytes

end NodeClient.Text
