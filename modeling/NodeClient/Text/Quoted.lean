import NodeClient.Text.Digit
import NodeClient.Text.Printable

/-! # Quoted text

Messages and log records quote a text between single quotes, or between double quotes when it
holds a single quote and no double one. Inside, a backslash and the quote in use are escaped, the
three common line controls have letters, and every other character without a visible form is
written by its code point in two, four or eight hexadecimal digits.
-/

namespace NodeClient.Text

/-- The quote that surrounds a text: the single one unless only double quotes need no escape. -/
def quoteFor (text : List Char) : Char :=
  if text.contains '\'' && !text.contains '"' then '"' else '\''

/-- A character written by its code point. -/
def escapedChar (c : Char) : List Char :=
  if c.toNat ≤ 0xFF then '\\' :: 'x' :: hexadecimal 2 c.toNat
  else if c.toNat ≤ 0xFFFF then '\\' :: 'u' :: hexadecimal 4 c.toNat
  else '\\' :: 'U' :: hexadecimal 8 c.toNat

/-- One character inside quotes. -/
def quotedChar (quote c : Char) : List Char :=
  if c = quote ∨ c = '\\' then ['\\', c]
  else if c = '\t' then ['\\', 't']
  else if c = '\n' then ['\\', 'n']
  else if c = '\r' then ['\\', 'r']
  else if isPrintable c then [c]
  else escapedChar c

/-- A text between the quotes it needs. -/
def quotedChars (text : List Char) : List Char :=
  let quote := quoteFor text
  quote :: (text.flatMap (quotedChar quote) ++ [quote])

def quoted (text : String) : String :=
  String.ofList (quotedChars text.toList)

def quotedList (texts : List String) : String :=
  "[" ++ ", ".intercalate (texts.map quoted) ++ "]"

end NodeClient.Text
