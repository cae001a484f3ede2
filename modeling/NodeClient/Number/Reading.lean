import NodeClient.Number.Binary64
import NodeClient.Number.Integer
import NodeClient.Text.Basic

/-! # Reading floating-point numbers from text

A number has an optional sign, digits with an optional point among or around them, and an optional
exponent; the words `inf`, `infinity` and `nan` count in any letter case. Either white space may
surround it, or single underscores may stand inside.
-/

namespace NodeClient.Number

/-- The digits behind a point, if there is one, and what follows them. -/
def pointDigits : List Char → List Nat × List Char
  | '.' :: rest => Text.asciiDigits rest
  | text => ([], text)

/-- The exponent that ends a number: absent at the end of the text, and otherwise an `e` in either
letter case, an optional sign and at least one digit. -/
def lastExponent? : List Char → Option Int
  | [] => some 0
  | c :: rest =>
    if c = 'e' ∨ c = 'E' then
      let (negative, unsigned) := signOf rest
      match Text.asciiDigits unsigned with
      | ([], _) => none
      | (digits, []) => some (withSign negative (Text.ofDigits 10 digits))
      | _ => none
    else none

/-- The number that a text without blanks and underscores spells. -/
def readFloatStrict? (text : List Char) : Option Binary64 :=
  let (negative, unsigned) := signOf text
  let word := String.ofList (unsigned.map Char.toLower)
  if word = "inf" ∨ word = "infinity" then some (.infinite negative)
  else if word = "nan" then some .nan
  else
    let (whole, afterWhole) := Text.asciiDigits unsigned
    let (fraction, after) := pointDigits afterWhole
    if whole.isEmpty && fraction.isEmpty then none
    else
      (lastExponent? after).map fun exponent =>
        Binary64.ofDecimal negative (Text.ofDigits 10 (whole ++ fraction))
          (exponent - fraction.length)

/-- Whether two underscores stand side by side. -/
def hasDoubleUnderscore : List Char → Bool
  | '_' :: '_' :: _ => true
  | _ :: rest => hasDoubleUnderscore rest
  | [] => false

/-- The number that a text spells, with white space around it or else single underscores inside. -/
def readFloat? (text : List Char) : Option Binary64 :=
  match readFloatStrict? (Text.trim Text.isSpace text) with
  | some number => some number
  | none =>
    if text.head? = some '_' ∨ text.getLast? = some '_' ∨ !text.contains '_' ∨
        hasDoubleUnderscore text then none
    else readFloatStrict? (text.filter (· ≠ '_'))

end NodeClient.Number
