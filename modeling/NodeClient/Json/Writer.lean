import NodeClient.Json.Value
import NodeClient.Number.Quantity

/-! # Writing JSON

A value is written on one line without spaces and in ASCII: a character beyond ASCII becomes the
escapes of its UTF-16 units. The three special floating-point values have names of their own. Not
every value can be written: an integer may have too many digits, and a constant that is neither a
string nor an integer has no form in JSON. The first fault of a value is the one that is reported.
-/

namespace NodeClient.Value

def unitEscape (unit : Nat) : List Char := '\\' :: 'u' :: Text.hexadecimal 4 unit

def writtenChar (c : Char) : List Char :=
  if c = '"' then ['\\', '"']
  else if c = '\\' then ['\\', '\\']
  else if c = '\n' then ['\\', 'n']
  else if c = '\r' then ['\\', 'r']
  else if c = '\t' then ['\\', 't']
  else if c.toNat = 8 then ['\\', 'b']
  else if c.toNat = 12 then ['\\', 'f']
  else if 0x20 ≤ c.toNat ∧ c.toNat < 0x7F then [c]
  else if c.toNat < 0x10000 then unitEscape c.toNat
  else
    unitEscape (0xD800 + (c.toNat - 0x10000) / 0x400) ++
      unitEscape (0xDC00 + (c.toNat - 0x10000) % 0x400)

/-- A string between double quotes. -/
def writtenString (text : String) : List Char :=
  '"' :: (text.toList.flatMap writtenChar ++ ['"'])

def writtenInt (value : Int) : List Char :=
  let digits := Nat.toDigits 10 value.natAbs
  if value < 0 then '-' :: digits else digits

/-- A floating-point number, with the names of the special values. -/
def writtenFloat : Binary64 → List Char
  | .nan => "NaN".toList
  | .infinite negative => if negative then "-Infinity".toList else "Infinity".toList
  | number => number.text.toList

variable {κ : Type} [Constant κ]

mutual

/-- The characters of a value. A constant without a form is a fault, and null stands for it here. -/
def written : Value κ → List Char
  | .null => "null".toList
  | .bool value => if value then "true".toList else "false".toList
  | .int value => writtenInt value
  | .float value => writtenFloat value
  | .str value => writtenString value
  | .const value =>
    match Constant.meaning value with
    | .text word => writtenString word
    | .integer number => writtenInt number
    | .other _ => "null".toList
  | .arr items => '[' :: (writtenItems items ++ [']'])
  | .obj members => '\x7b' :: (writtenMembers members ++ ['\x7d'])

/-- Items with commas between them. -/
def writtenItems : List (Value κ) → List Char
  | [] => []
  | [item] => written item
  | item :: rest => written item ++ ',' :: writtenItems rest

/-- Members with commas between them. -/
def writtenMembers : List (String × Value κ) → List Char
  | [] => []
  | [(name, value)] => writtenString name ++ ':' :: written value
  | (name, value) :: rest =>
    writtenString name ++ ':' :: (written value ++ ',' :: writtenMembers rest)

end

def write (value : Value κ) : String := String.ofList (written value)

/-- Why something in a value cannot be written. -/
inductive WriteFault where
  | tooLong
  | noForm (kindName : String)
  deriving Repr, DecidableEq

/-- The fault of an integer, if it has too many digits. -/
def integerFaults (number : Int) : List WriteFault :=
  if Quantity.isTooLong (.int number) then [.tooLong] else []

mutual

/-- What cannot be written of a value, in the order of writing. -/
def writeFaults : Value κ → List WriteFault
  | .int value => integerFaults value
  | .const value =>
    match Constant.meaning value with
    | .text _ => []
    | .integer number => integerFaults number
    | .other _ => [.noForm (Constant.kindName value)]
  | .arr items => itemFaults items
  | .obj members => memberFaults members
  | _ => []

def itemFaults : List (Value κ) → List WriteFault
  | [] => []
  | item :: rest => writeFaults item ++ itemFaults rest

def memberFaults : List (String × Value κ) → List WriteFault
  | [] => []
  | (_, value) :: rest => writeFaults value ++ memberFaults rest

end

end NodeClient.Value
