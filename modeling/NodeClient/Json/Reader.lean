import NodeClient.Json.Value
import NodeClient.Number.Integer

/-! # Reading JSON

The reader takes one value with blanks around it. Beyond the grammar of JSON it knows the names
`NaN`, `Infinity` and `-Infinity`. A number without fraction and exponent is an integer of any size
up to the digit limit; one with either is rounded to the nearest floating-point number. The last of
several members of one name wins, in the place of the first. Strings are sequences of characters, so
the half of a pair of UTF-16 units that an escape may spell on its own is not kept.

A fault is kept with the count of characters left at the place it was found, from which `read`
computes the line, the column and the offset in characters.
-/

namespace NodeClient.Json

/-- What is wrong at a place of a text that is not JSON. -/
inductive Problem where
  | value
  | property
  | colon
  | comma
  | extra
  | unterminated
  | control
  | escape
  | unicodeEscape
  | byteOrderMark
  deriving Repr, DecidableEq

def Problem.text : Problem → String
  | .value => "Expecting value"
  | .property => "Expecting property name enclosed in double quotes"
  | .colon => "Expecting ':' delimiter"
  | .comma => "Expecting ',' delimiter"
  | .extra => "Extra data"
  | .unterminated => "Unterminated string starting at"
  | .control => "Invalid control character at"
  | .escape => "Invalid \\escape"
  | .unicodeEscape => "Invalid \\uXXXX escape"
  | .byteOrderMark => "Unexpected UTF-8 BOM (decode using utf-8-sig)"

/-- A problem with the count of characters left there, or an integer with too many digits. -/
inductive Fault where
  | syntaxAt (problem : Problem) (left : Nat)
  | tooLong (digits : Nat)
  deriving Repr, DecidableEq

/-- Why a text is not read: a problem at a line, a column and an offset, or too many digits. -/
inductive ReadError where
  | malformed (problem : Problem) (line column offset : Nat)
  | tooLong (digits : Nat)
  deriving Repr, DecidableEq

def ReadError.message : ReadError → String
  | .malformed problem line column offset =>
    s!"{problem.text}: line {line} column {column} (char {offset})"
  | .tooLong digits => Number.tooLongMessage (some digits)

/-- Whether a character is a blank between tokens. -/
def isGap (c : Char) : Bool := c = ' ' || c = '\t' || c = '\n' || c = '\r'

/-- Drops the blanks in front. -/
def skip (text : List Char) : List Char := text.dropWhile isGap

/-- The character that a one-letter escape stands for. -/
def simpleEscape? (c : Char) : Option Char :=
  if c = '"' then some '"'
  else if c = '\\' then some '\\'
  else if c = '/' then some '/'
  else if c = 'b' then some (Char.ofNat 8)
  else if c = 'f' then some (Char.ofNat 12)
  else if c = 'n' then some '\n'
  else if c = 'r' then some '\r'
  else if c = 't' then some '\t'
  else none

/-- The UTF-16 unit that four hexadecimal digits spell. -/
def unit? (a b c d : Char) : Option Nat := do
  let a ← Text.hexDigit? a
  let b ← Text.hexDigit? b
  let c ← Text.hexDigit? c
  let d ← Text.hexDigit? d
  return Text.ofDigits 16 [a, b, c, d]

def isHighUnit (unit : Nat) : Bool := 0xD800 ≤ unit && unit < 0xDC00

def isLowUnit (unit : Nat) : Bool := 0xDC00 ≤ unit && unit < 0xE000

/-- The characters of code points among which halves of pairs may stand: two halves in order are one
character. A text holds characters only, so a half on its own, which other readers keep, is replaced
by U+FFFD: texts with such halves are beyond what is described here. -/
def joinUnits : List Nat → List Char
  | [] => []
  | [unit] => [if isHighUnit unit || isLowUnit unit then Char.ofNat 0xFFFD else Char.ofNat unit]
  | unit :: next :: rest =>
    if isHighUnit unit && isLowUnit next then
      Char.ofNat (0x10000 + (unit - 0xD800) * 0x400 + (next - 0xDC00)) :: joinUnits rest
    else
      (if isHighUnit unit || isLowUnit unit then Char.ofNat 0xFFFD else Char.ofNat unit) ::
        joinUnits (next :: rest)

/-- Puts a code point in front of what was read. -/
def withUnit (unit : Nat) :
    Except Fault (List Nat × List Char) → Except Fault (List Nat × List Char)
  | .ok (units, rest) => .ok (unit :: units, rest)
  | .error fault => .error fault

/-- The code points of a string up to its closing quote, with escapes resolved, and what follows it.
The count of characters left at the opening quote is reported when there is no closing one. -/
def readUnits (start : Nat) : List Char → Except Fault (List Nat × List Char)
  | [] => .error (.syntaxAt .unterminated start)
  | c :: rest =>
    if c = '"' then .ok ([], rest)
    else if c = '\\' then
      match rest with
      | [] => .error (.syntaxAt .unterminated start)
      | letter :: after =>
        if letter = 'u' then
          match after with
          | h1 :: h2 :: h3 :: h4 :: tail =>
            if tail.isEmpty then .error (.syntaxAt .unicodeEscape (after.length + 1))
            else
              match unit? h1 h2 h3 h4 with
              | some unit => withUnit unit (readUnits start tail)
              | none => .error (.syntaxAt .unicodeEscape (after.length + 1))
          | _ => .error (.syntaxAt .unicodeEscape (after.length + 1))
        else
          match simpleEscape? letter with
          | some meant => withUnit meant.toNat (readUnits start after)
          | none => .error (.syntaxAt .escape (after.length + 2))
    else if c.toNat < 0x20 then .error (.syntaxAt .control (rest.length + 1))
    else withUnit c.toNat (readUnits start rest)

/-- A string after its opening quote, and what follows it. -/
def readString (text : List Char) : Except Fault (String × List Char) :=
  match readUnits (text.length + 1) text with
  | .ok (units, rest) => .ok (String.ofList (joinUnits units), rest)
  | .error fault => .error fault

/-- The whole part of a number: a zero on its own, or digits that do not start with zero. -/
def wholeDigits (text : List Char) : List Nat × List Char :=
  match text with
  | '0' :: rest => ([0], rest)
  | _ => Text.asciiDigits text

/-- The digits of a fraction, if a point and a digit stand in front. -/
def fractionDigits (text : List Char) : List Nat × List Char :=
  match text with
  | '.' :: rest =>
    match Text.asciiDigits rest with
    | ([], _) => ([], text)
    | (digits, after) => (digits, after)
  | _ => ([], text)

/-- The exponent, if its letter, an optional sign and a digit stand in front. -/
def exponentOf (text : List Char) : Option Int × List Char :=
  match text with
  | [] => (none, text)
  | c :: rest =>
    if c = 'e' ∨ c = 'E' then
      let (negative, unsigned) := Number.signOf rest
      match Text.asciiDigits unsigned with
      | ([], _) => (none, text)
      | (digits, after) => (some (Number.withSign negative (Text.ofDigits 10 digits)), after)
    else (none, text)

/-- A number and what follows it. -/
def readNumber (text : List Char) : Except Fault (Json × List Char) :=
  let (negative, unsigned) :=
    match text with
    | '-' :: rest => (true, rest)
    | _ => (false, text)
  match wholeDigits unsigned with
  | ([], _) => .error (.syntaxAt .value text.length)
  | (whole, afterWhole) =>
    let (fraction, afterFraction) := fractionDigits afterWhole
    let (exponent, after) := exponentOf afterFraction
    if fraction.isEmpty && exponent.isNone then
      if Number.digitLimit < whole.length then .error (.tooLong whole.length)
      else .ok (.int (Number.withSign negative (Text.ofDigits 10 whole)), after)
    else
      let scale := exponent.getD 0 - fraction.length
      .ok (.float (Binary64.ofDecimal negative (Text.ofDigits 10 (whole ++ fraction)) scale), after)

def words : List (List Char × Json) :=
  [("null".toList, .null), ("true".toList, .bool true), ("false".toList, .bool false),
    ("NaN".toList, .float .nan), ("Infinity".toList, .float (.infinite false)),
    ("-Infinity".toList, .float (.infinite true))]

/-- A word that is a value, and what follows it. -/
def readWord? (text : List Char) : Option (Json × List Char) :=
  (words.find? fun word => word.1.isPrefixOf text).map fun word =>
    (word.2, text.drop word.1.length)

mutual

/-- One value and what follows it. A list takes two steps for its bracket, one to its items and one
to the first of them, so a count of steps beyond twice the length of the text is never used up. -/
def readValue : Nat → List Char → Except Fault (Json × List Char)
  | 0, text => .error (.syntaxAt .value text.length)
  | _ + 1, [] => .error (.syntaxAt .value 0)
  | steps + 1, c :: rest =>
    if c = '"' then
      match readString rest with
      | .ok (text, after) => .ok (.str text, after)
      | .error fault => .error fault
    else if c = '[' then
      match skip rest with
      | ']' :: after => .ok (.arr [], after)
      | body =>
        match readItems steps body with
        | .ok (items, after) => .ok (.arr items, after)
        | .error fault => .error fault
    else if c = '\x7b' then
      match skip rest with
      | '\x7d' :: after => .ok (.obj [], after)
      | body =>
        match readMembers steps [] body with
        | .ok (members, after) => .ok (.obj members, after)
        | .error fault => .error fault
    else
      match readWord? (c :: rest) with
      | some found => .ok found
      | none => readNumber (c :: rest)

/-- The items of a list up to its closing bracket, and what follows it. -/
def readItems : Nat → List Char → Except Fault (List Json × List Char)
  | 0, text => .error (.syntaxAt .value text.length)
  | steps + 1, text =>
    match readValue steps text with
    | .error fault => .error fault
    | .ok (item, after) =>
      match skip after with
      | ']' :: rest => .ok ([item], rest)
      | ',' :: rest =>
        match readItems steps (skip rest) with
        | .ok (items, after) => .ok (item :: items, after)
        | .error fault => .error fault
      | other => .error (.syntaxAt .comma other.length)

/-- The members of an object up to its closing brace, added to those read before, and what follows
it. -/
def readMembers : Nat → List (String × Json) → List Char →
    Except Fault (List (String × Json) × List Char)
  | 0, _, text => .error (.syntaxAt .value text.length)
  | steps + 1, members, text =>
    match text with
    | '"' :: rest =>
      match readString rest with
      | .error fault => .error fault
      | .ok (name, afterName) =>
        match skip afterName with
        | ':' :: afterColon =>
          match readValue steps (skip afterColon) with
          | .error fault => .error fault
          | .ok (value, after) =>
            let members := Value.setMember name value members
            match skip after with
            | '\x7d' :: rest => .ok (members, rest)
            | ',' :: rest => readMembers steps members (skip rest)
            | other => .error (.syntaxAt .comma other.length)
        | other => .error (.syntaxAt .colon other.length)
    | other => .error (.syntaxAt .property other.length)

end

/-- One value with blanks around it and nothing else. -/
def readDocument (text : List Char) : Except Fault Json :=
  match text with
  | '\ufeff' :: _ => .error (.syntaxAt .byteOrderMark text.length)
  | _ =>
    match readValue (2 * text.length + 1) (skip text) with
    | .error fault => .error fault
    | .ok (value, after) =>
      match skip after with
      | [] => .ok value
      | other => .error (.syntaxAt .extra other.length)

/-- The place of a fault in its text. -/
def Fault.locate (text : List Char) : Fault → ReadError
  | .tooLong digits => .tooLong digits
  | .syntaxAt problem left =>
    let before := text.take (text.length - left)
    .malformed problem (before.count '\n' + 1)
      ((before.reverse.takeWhile (· ≠ '\n')).length + 1) before.length

def read (text : String) : Except ReadError Json :=
  (readDocument text.toList).mapError (Fault.locate text.toList)

end NodeClient.Json
